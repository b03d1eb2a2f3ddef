import SyntaxQuery.Json.Reader

/-!
Contract: what holds of every value that is read from text.

A value is put together from scalars and empty containers by appending elements and setting keys. A
property that these steps keep, with the room that is left for containers, holds of whatever stands
in the open containers of an assembly, and so of the value that is read (`Kept.of_ofTokens?`).

Does not own: any particular property.
-/

namespace SyntaxQuery.Json

/-- The property, given the number of containers that may nest in a value, is kept by all steps that
put a value together. Numbers are left to the tokens that they come from. -/
structure Kept (Holds : Nat → Json → Prop) : Prop where
  null (room : Nat) : Holds room .null
  bool (room : Nat) (value : Bool) : Holds room (.bool value)
  string (room : Nat) (value : String) : Holds room (.string value)
  noItems (room : Nat) : Holds (room + 1) (.array [])
  append {room : Nat} {items : List Json} {item : Json} (before : Holds (room + 1) (.array items))
    (holds : Holds room item) : Holds (room + 1) (.array (items ++ [item]))
  noMembers (room : Nat) : Holds (room + 1) (.object [])
  put {room : Nat} {members : List (String × Json)} {value : Json}
    (before : Holds (room + 1) (.object members)) (holds : Holds room value) (key : String) :
    Holds (room + 1) (.object (put key value members))

/-- What an open container holds so far. -/
def Container.value : Container → Json
  | .array items => .array items.reverse
  | .object members _ => .object members

section

variable (Holds : Nat → Json → Prop) (limit : Nat)

/-- The property holds of what is in the open containers. -/
def OpenHold : List Container → Prop
  | [] => True
  | innermost :: outer =>
      outer.length < limit ∧ Holds (limit - outer.length) innermost.value ∧ OpenHold outer

/-- The property holds of the object that waits for a key or a colon, and of a finished value. -/
def NextHolds (containers : List Container) : Expectation → Prop
  | .key members =>
      containers.length < limit ∧ Holds (limit - containers.length) (.object members)
  | .colon members _ =>
      containers.length < limit ∧ Holds (limit - containers.length) (.object members)
  | .finished value => Holds limit value
  | _ => True

/-- The property holds of everything in an assembly. -/
structure AssemblyHolds (assembly : Assembly) : Prop where
  containers : OpenHold Holds limit assembly.containers
  next : NextHolds Holds limit assembly.containers assembly.next

end

namespace Kept

variable {Holds : Nat → Json → Prop} {limit : Nat}

theorem complete (kept : Kept Holds) {containers : List Container} {value : Json}
    (holdOpen : OpenHold Holds limit containers)
    (holds : Holds (limit - containers.length) value) :
    AssemblyHolds Holds limit (Assembly.complete containers value) := by
  cases containers with
  | nil => exact ⟨trivial, holds⟩
  | cons innermost outer =>
      obtain ⟨within, inner, holdOuter⟩ := holdOpen
      obtain ⟨room, isRoom⟩ : ∃ room, limit - outer.length = room + 1 :=
        ⟨limit - outer.length - 1, by omega⟩
      have inside : limit - (innermost :: outer).length = room := by
        rw [List.length_cons]
        omega
      rw [inside] at holds
      rw [isRoom] at inner
      cases innermost with
      | array items =>
          have extended : Holds (limit - outer.length) (.array (value :: items).reverse) := by
            rw [isRoom, List.reverse_cons]
            exact kept.append inner holds
          exact ⟨⟨within, extended, holdOuter⟩, trivial⟩
      | object members key =>
          have extended : Holds (limit - outer.length) (.object (Json.put key value members)) := by
            rw [isRoom]
            exact kept.put inner holds key
          exact ⟨⟨within, extended, holdOuter⟩, trivial⟩

theorem empty (kept : Kept Holds) {opened : Nat} (within : opened < limit) :
    Holds (limit - opened) (.array []) ∧ Holds (limit - opened) (.object []) := by
  obtain ⟨room, isRoom⟩ : ∃ room, limit - opened = room + 1 := ⟨limit - opened - 1, by omega⟩
  rw [isRoom]
  exact ⟨kept.noItems room, kept.noMembers room⟩

theorem beginValue (kept : Kept Holds) {containers : List Container} {token : Token}
    {after : Assembly} (numbers : ∀ number, token = .number number → ∀ room, Holds room (.number number))
    (holdOpen : OpenHold Holds limit containers)
    (begun : Assembly.beginValue (some limit) containers token = some after) :
    AssemblyHolds Holds limit after := by
  cases token with
  | null =>
      cases begun
      exact kept.complete holdOpen (kept.null _)
  | bool value =>
      cases begun
      exact kept.complete holdOpen (kept.bool _ value)
  | number value =>
      cases begun
      exact kept.complete holdOpen (numbers value rfl _)
  | string value =>
      cases begun
      exact kept.complete holdOpen (kept.string _ value)
  | beginArray =>
      simp only [Assembly.beginValue, Assembly.mayOpen, Option.ite_none_right_eq_some,
        decide_eq_true_eq] at begun
      obtain ⟨within, begun⟩ := begun
      cases begun
      exact ⟨⟨within, (kept.empty within).1, holdOpen⟩, trivial⟩
  | beginObject =>
      simp only [Assembly.beginValue, Assembly.mayOpen, Option.ite_none_right_eq_some,
        decide_eq_true_eq] at begun
      obtain ⟨within, begun⟩ := begun
      cases begun
      exact ⟨⟨within, (kept.empty within).2, holdOpen⟩, trivial⟩
  | _ => cases begun

/-- A step of the assembly keeps the property. -/
theorem step (kept : Kept Holds) {assembly after : Assembly} {token : Token}
    (numbers : ∀ number, token = .number number → ∀ room, Holds room (.number number))
    (holds : AssemblyHolds Holds limit assembly)
    (stepped : Assembly.step (some limit) assembly token = some after) :
    AssemblyHolds Holds limit after := by
  obtain ⟨containers, next⟩ := assembly
  obtain ⟨holdOpen, holdNext⟩ := holds
  unfold Assembly.step at stepped
  dsimp only at stepped holdOpen holdNext
  split at stepped
  · exact kept.beginValue numbers holdOpen stepped
  · cases stepped
    obtain ⟨within, _, holdOuter⟩ := holdOpen
    exact kept.complete holdOuter (kept.empty within).1
  · exact kept.beginValue numbers holdOpen stepped
  · cases stepped
    obtain ⟨_, inner, holdOuter⟩ := holdOpen
    exact kept.complete holdOuter inner
  · cases stepped
    exact ⟨holdOpen, trivial⟩
  · cases stepped
    obtain ⟨_, inner, holdOuter⟩ := holdOpen
    exact kept.complete holdOuter inner
  · cases stepped
    obtain ⟨within, inner, holdOuter⟩ := holdOpen
    exact ⟨holdOuter, within, inner⟩
  · cases stepped
    exact ⟨holdOpen, holdNext⟩
  · cases stepped
    obtain ⟨within, _, holdOuter⟩ := holdOpen
    exact kept.complete holdOuter (kept.empty within).2
  · cases stepped
    obtain ⟨within, inner, holdOuter⟩ := holdOpen
    exact ⟨holdOuter, within, inner⟩
  · cases stepped
    exact ⟨⟨holdNext.1, holdNext.2, holdOpen⟩, trivial⟩
  · cases stepped

theorem run (kept : Kept Holds) {assembly after : Assembly} {tokens : List Token}
    (numbers : ∀ number, .number number ∈ tokens → ∀ room, Holds room (.number number))
    (holds : AssemblyHolds Holds limit assembly)
    (ran : Assembly.run (some limit) assembly tokens = some after) :
    AssemblyHolds Holds limit after := by
  induction tokens generalizing assembly with
  | nil =>
      cases ran
      exact holds
  | cons token rest inductionHypothesis =>
      obtain ⟨next, stepped, onward⟩ := Option.bind_eq_some_iff.mp ran
      refine inductionHypothesis ?_ (kept.step ?_ holds stepped) onward
      · intro number isToken
        exact numbers number (List.mem_cons_of_mem _ isToken)
      · rintro number rfl
        exact numbers number List.mem_cons_self

/-- The value that tokens are put together to has the property, with the limit as its room. -/
theorem of_ofTokens? (kept : Kept Holds) {tokens : List Token} {value : Json}
    (numbers : ∀ number, .number number ∈ tokens → ∀ room, Holds room (.number number))
    (assembled : ofTokens? (some limit) tokens = some value) : Holds limit value := by
  obtain ⟨assembly, ran, ended⟩ := Option.bind_eq_some_iff.mp assembled
  have start : AssemblyHolds Holds limit ⟨[], .value⟩ := ⟨trivial, trivial⟩
  have holds := (kept.run numbers start ran).next
  split at ended
  · next finished =>
      cases ended
      rw [finished] at holds
      exact holds
  · cases ended

/-- So has the value of a text. -/
theorem of_parse? (kept : Kept Holds) {text : String} {value : Json}
    (numbers : ∀ tokens number, scan? text.toList = some tokens → .number number ∈ tokens →
      ∀ room, Holds room (.number number))
    (read : parse? text = some value) : Holds textNestingLimit value := by
  obtain ⟨tokens, scanned, assembled⟩ := Option.bind_eq_some_iff.mp read
  exact kept.of_ofTokens? (fun number => numbers tokens number scanned) assembled

end Kept

end SyntaxQuery.Json
