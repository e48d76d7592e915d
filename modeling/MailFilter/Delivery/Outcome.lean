import MailFilter.Script.Basic

/-!
# Outcomes

A script does not deliver a message. It records what is to be done with it.

- `Outcome`: what has been recorded.
- `Outcome.record`: records an action.
- `Outcome.isKept`, `Outcome.destinations`: where the message ends up.
- `Outcome.destinations_eq_nil_iff`: a message is lost only if it is discarded.
-/

namespace MailFilter

/-- What a script has recorded for a message. -/
structure Outcome where
  /-- Each tag once, in the order of first use. -/
  tags : List Text := []
  folders : List Text := []
  logs : List Text := []
  explicitKeep : Bool := false
  discarded : Bool := false
  /-- Whether the script ended before its last command. -/
  stopped : Bool := false
  deriving DecidableEq, Inhabited

namespace Outcome

/-- Adds a tag, unless it is there. -/
def addTag (o : Outcome) (tag : Text) : Outcome :=
  if tag ∈ o.tags then o else { o with tags := o.tags ++ [tag] }

/-- Records an action of which the argument is expanded already. -/
def record (o : Outcome) : Action → Outcome
  | .tag name => o.addTag name
  | .fileInto folder => { o with folders := o.folders ++ [folder] }
  | .log line => { o with logs := o.logs ++ [line] }
  | .keep => { o with explicitKeep := true }
  | .discard => { o with discarded := true }
  | .stop => { o with stopped := true }

/-- A message is kept if the script says so, or if nothing else happens to it. -/
def isKept (o : Outcome) : Bool :=
  o.explicitKeep || !(o.discarded || !o.folders.isEmpty)

/-- The folders in which the message ends up. -/
def destinations (o : Outcome) (defaultFolder : Text) : List Text :=
  if o.isKept && !o.folders.contains defaultFolder then o.folders ++ [defaultFolder] else o.folders

/-- Every folder that the message was filed into is a destination. -/
theorem mem_destinations_of_mem_folders {o : Outcome} {folder : Text} (defaultFolder : Text)
    (h : folder ∈ o.folders) : folder ∈ o.destinations defaultFolder := by
  unfold destinations
  split <;> simp [h]

/-- The default folder is among the destinations of a message that is kept. -/
theorem mem_destinations_of_isKept (o : Outcome) (defaultFolder : Text) (h : o.isKept = true) :
    defaultFolder ∈ o.destinations defaultFolder := by
  unfold destinations
  split
  · simp
  · simp_all

/-- A message is lost only if it is discarded, neither kept nor filed. -/
theorem destinations_eq_nil_iff (o : Outcome) (defaultFolder : Text) :
    o.destinations defaultFolder = [] ↔
      o.discarded = true ∧ o.explicitKeep = false ∧ o.folders = [] := by
  by_cases hf : o.folders = []
  · cases hd : o.discarded <;> cases hk : o.explicitKeep <;> simp [destinations, isKept, hf, hd, hk]
  · obtain ⟨folder, hfolder⟩ := List.exists_mem_of_ne_nil _ hf
    have := List.ne_nil_of_mem (mem_destinations_of_mem_folders defaultFolder hfolder)
    simp [this, hf]

end Outcome

end MailFilter
