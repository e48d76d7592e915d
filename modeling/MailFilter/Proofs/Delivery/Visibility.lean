import Mathlib
import MailFilter.Proofs.Delivery.Simulation

/-!
# What a script sees of its variables

The store is visible to a script through references alone. So a script without references cannot
tell whether variables are enabled, and one that never refers to a name cannot tell whether the name
is bound.

- `Engine.deliver_disabled_of_enabled`: the switch is invisible where tests and actions hold no
  reference, whatever is bound and captured.
- `Store.AgreesExcept`: stores that differ under one name only.
- `Engine.deliver_without_unread`: commands that bind a name to which nothing refers may be left
  out.

Both say what holds of a run that does not break off. A `set` command may fail where nothing looks
at what it binds, so the converses do not hold.
-/

namespace MailFilter

open Delivery Run

/-! ## The switch -/

/-- A text without references stands for itself, whether it is expanded or not. -/
theorem Delivery.Surroundings.expanded_eq_self (e : Surroundings) (store : Store) {t : Text}
    (h : Template.references t = []) : e.expanded store t = t := by
  unfold Surroundings.expanded
  split
  · exact Template.expand_eq_self store t h
  · rfl

/-- The commands of a script that tests and actions do not look at do nothing else than binding. -/
theorem Command.simulates_disabled (message : Message) {commands : List Command}
    (hfree : ∀ t ∈ Command.textsIn commands, Template.references t = []) :
    Simulates (fun _ _ => True) ⟨message, true⟩ ⟨message, false⟩ (Command.runAll commands)
      (Command.runAll commands) := by
  have hsim : Simulation (fun _ _ => True) ⟨message, true⟩ ⟨message, false⟩ :=
    ⟨rfl, fun _ _ _ _ => trivial⟩
  have hlooks : ∀ t ∈ Command.textsIn commands,
      LooksSame (fun _ _ => True) ⟨message, true⟩ ⟨message, false⟩ t := by
    intro t ht a b _
    have ht := hfree t ht
    rw [Surroundings.expanded_eq_self _ a ht, Surroundings.expanded_eq_self _ b ht]
  have htracks : ∀ c ∈ Command.setsIn commands,
      c.Tracks (fun _ _ => True) ⟨message, true⟩ ⟨message, false⟩ fun _ => false := by
    -- while variables are disabled a command does not even look at its value
    intro c _ a b result a' _ _
    exact ⟨none, b, rfl, trivial⟩
  have := Command.simulatesAll hsim commands hlooks htracks
  rwa [Command.prunedIn_none] at this

/-- Where no test and no action holds a reference, a delivery that does not break off while
variables are enabled has the same outcome while they are disabled. -/
theorem Engine.deliver_disabled_of_enabled {script : Script}
    (hfree : ∀ t ∈ script.texts, Template.references t = []) (message : Message)
    {on off : VariablesSettings} {account other : Option Text}
    (hon : on.enabledFor account = .ok true) (hoff : off.enabledFor other = .ok false)
    (journal journal' : Journal) {outcome : Outcome}
    (h : (deliver on script message account journal).1 = .ok outcome) :
    (deliver off script message other journal').1 = .ok outcome := by
  refine deliver_of_simulates (fun _ _ => True) trivial hoff (fun on₁ hon₁ => ?_) h
  obtain rfl := Except.ok.inj (hon₁.symm.trans hon)
  exact Command.simulates_disabled message hfree

/-- A glob binds captures and a nested block a variable, and the texts look much like references. -/
theorem Engine.deliver_disabled_of_enabled_captures :
    let keys : Keys := ⟨["*\\$\x7b*"], .glob, .octet⟩
    let script : Script := ⟨"lookalikes", [],
      [.set ⟨"who", "$\x7b1\x7d", [":upper"], .ofList [.upper]⟩,
        .choice [(.header keys ["Subject"],
          [.set ⟨"where", "$\x7bwho\x7d$\x7b2\x7d", [], .ofList []⟩,
            .action (.tag "\\$\x7bdoh!\x7d"), .action (.log "$\x7b")])] [],
        .action .stop]⟩
    let message : Message := ⟨[⟨"Subject", .ok (.ok "pay $\x7bnow\x7d")⟩]⟩
    let outcome : Outcome :=
      { tags := ["\\$\x7bdoh!\x7d"], logs := ["$\x7b"], stopped := true }
    (deliver { enabled := .bool false } script message none .empty).1 = .ok outcome := by
  intro keys script message outcome
  have hfree : script.texts.flatMap Template.references = [] := by cbv
  have henabled : (deliver {} script message none .empty).1 = .ok outcome := by cbv
  exact deliver_disabled_of_enabled (List.flatMap_eq_nil_iff.mp hfree) message rfl rfl _ _ henabled

/-! ## Names to which nothing refers -/

namespace Store

/-- Two stores have the same captures, and differ in bindings at most under one name. -/
def AgreesExcept (x : Text) (a b : Store) : Prop :=
  a.captures = b.captures ∧ ∀ key, key ≠ x → a.bindings.get? key = b.bindings.get? key

theorem AgreesExcept.refl (x : Text) (s : Store) : AgreesExcept x s s :=
  ⟨rfl, fun _ _ => rfl⟩

/-- Every other name has the same value, be it a binding or a capture. -/
theorem AgreesExcept.lookup? {x name : Text} {a b : Store} (h : AgreesExcept x a b)
    (hname : name.lower ≠ x) : a.lookup? name = b.lookup? name := by
  have hcaptures : a.captureOf? name.lower = b.captureOf? name.lower := by
    unfold captureOf?
    rw [h.1]
  unfold Store.lookup?
  dsimp only
  rw [hcaptures, h.2 name.lower hname]

/-- The same binding in both stores. -/
theorem AgreesExcept.bind {x : Text} {a b : Store} (h : AgreesExcept x a b) (name value : Text) :
    AgreesExcept x (a.bind name value) (b.bind name value) := by
  refine ⟨h.1, fun key hkey => ?_⟩
  show (a.bindings.put name.lower value).get? key = (b.bindings.put name.lower value).get? key
  -- under the name itself both have the new value, under other names the old ones
  rw [Assoc.get?_put, Assoc.get?_put, h.2 key hkey]

/-- A binding under the name in one of the stores. -/
theorem AgreesExcept.bind_left {x name : Text} {a b : Store} (h : AgreesExcept x a b)
    (hname : name.lower = x) (value : Text) : AgreesExcept x (a.bind name value) b := by
  refine ⟨h.1, fun key hkey => ?_⟩
  show (a.bindings.put name.lower value).get? key = b.bindings.get? key
  rw [Assoc.get?_put, if_neg (hname ▸ hkey.symm), h.2 key hkey]

theorem AgreesExcept.captureIf {x : Text} {a b : Store} (h : AgreesExcept x a b) (enabled : Bool)
    (groups : List Text) :
    AgreesExcept x (a.captureIf enabled groups) (b.captureIf enabled groups) := by
  cases enabled with
  | true => exact ⟨rfl, h.2⟩
  | false => exact h

/-- A text that does not refer to the name expands alike. -/
theorem AgreesExcept.expand {x t : Text} {a b : Store} (h : AgreesExcept x a b)
    (ht : ∀ name ∈ Template.references t, name.lower ≠ x) :
    Template.expand a t = Template.expand b t := by
  refine Template.expandWith_congr t fun name hname => ?_
  rw [h.lookup? (ht name hname)]

end Store

/-- The commands that bind a name. -/
def SetCommand.assigns (x : Text) (c : SetCommand) : Bool :=
  c.name.lower = x

/-- A command that does not look at a name binds the same in both stores, and one that binds it may
be left out. -/
theorem SetCommand.tracks_of_unread {x : Text} {c : SetCommand} (e : Surroundings)
    (hvalue : ∀ name ∈ Template.references c.value, name.lower ≠ x) :
    c.Tracks (Store.AgreesExcept x) e e (SetCommand.assigns x) := by
  intro a b result a' hab h
  cases hon : e.variablesEnabled with
  | false =>
    rw [hon] at h
    cases h
    split
    · exact hab
    · exact ⟨none, b, rfl, hab⟩
  | true =>
    rw [hon] at h
    obtain ⟨value, hvalue', rfl, rfl⟩ := execute_enabled_eq_ok_iff.mp h
    split
    -- left out, it changes one store under the name to which nothing refers
    · next hassigns => exact hab.bind_left (by simpa [assigns] using hassigns) value
    · rw [hab.expand hvalue] at hvalue'
      exact ⟨some value, b.bind c.name value,
        execute_enabled_eq_ok_iff.mpr ⟨value, hvalue', rfl, rfl⟩, hab.bind c.name value⟩

/-- If nothing in a script refers to a name, the commands that bind it may be left out: a delivery
that does not break off has the same outcome without them, whether variables are enabled or not. -/
theorem Engine.deliver_without_unread {script : Script} {x : Text}
    (hunread : ∀ t ∈ script.texts ++ script.sets.map SetCommand.value,
      ∀ name ∈ Template.references t, name.lower ≠ x)
    (settings : VariablesSettings) (message : Message) (account : Option Text)
    (journal journal' : Journal) {outcome : Outcome}
    (h : (deliver settings script message account journal).1 = .ok outcome) :
    (deliver settings (script.pruned (SetCommand.assigns x)) message account journal').1 =
      .ok outcome := by
  obtain ⟨htexts, hvalues⟩ := List.forall_mem_append.mp hunread
  obtain ⟨on, -, -, hon, -⟩ := deliver_eq_ok_iff.mp h
  -- the stores of both runs agree but for this name
  refine deliver_of_simulates (Store.AgreesExcept x) (.refl x _) hon (fun on₁ hon₁ => ?_) h
  obtain rfl := Except.ok.inj (hon₁.symm.trans hon)
  have hsim : Simulation (Store.AgreesExcept x) ⟨message, on₁⟩ ⟨message, on₁⟩ :=
    ⟨rfl, fun a b groups hab => hab.captureIf on₁ groups⟩
  refine Command.simulatesAll hsim script.commands (fun t ht a b hab => ?_) fun c hc => ?_
  · unfold Surroundings.expanded
    rw [hab.expand (htexts t ht)]
  · exact SetCommand.tracks_of_unread _ (hvalues c.value (List.mem_map_of_mem hc))

/-- The name is bound in two spellings, one of them in a block, next to a name that is looked at. -/
theorem Engine.deliver_without_unread_nested :
    let keys : Keys := ⟨["*:*"], .glob, .octet⟩
    let bind (name value : Text) : Command := .set ⟨name, value, [], .ofList []⟩
    let file : Command := .action (.fileInto "$\x7bSUB\x7d$\x7b1\x7d")
    let script : Script := ⟨"folders", [],
      [bind "old" "$\x7b1\x7d",
        .choice [(.string keys ["list:lean"],
          [bind "sub" "$\x7b2\x7d/", bind "OLD" "$\x7bsub\x7d", file])] []]⟩
    let short : Script := ⟨"folders", [],
      [.choice [(.string keys ["list:lean"], [bind "sub" "$\x7b2\x7d/", file])] []]⟩
    script.pruned (SetCommand.assigns "old") = short ∧
      (deliver {} short ⟨[]⟩ none .empty).1 = .ok { folders := ["lean/list"] } := by
  intro keys bind file script short
  have hunread : ∀ name ∈ (script.texts ++ script.sets.map SetCommand.value).flatMap
      Template.references, name.lower ≠ ("old" : Text) := by
    have hnames : (script.texts ++ script.sets.map SetCommand.value).flatMap Template.references =
        (["SUB", "1", "1", "2", "sub"] : List Text) := by cbv
    rw [hnames]
    decide
  have hpruned : script.pruned (SetCommand.assigns "old") = short := rfl
  have hlong : (deliver {} script ⟨[]⟩ none .empty).1 = .ok { folders := ["lean/list"] } := by
    cbv
  refine ⟨hpruned, ?_⟩
  rw [← hpruned]
  refine deliver_without_unread (fun t ht name hname => ?_) {} ⟨[]⟩ none _ _ hlong
  exact hunread name (List.mem_flatMap_of_mem ht hname)

end MailFilter
