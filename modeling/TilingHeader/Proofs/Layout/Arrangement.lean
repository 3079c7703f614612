import Mathlib.Data.List.Chain
import Mathlib.Data.Set.List
import TilingHeader.Layout.Basic

namespace TilingHeader.Fragment

/-! How a sequence of events falls into fragments, said without a mode, without
lines and without notices.  The fragments keep every event, in order, and the
sequences of fragments that arise are exactly those in which an unclosed struct
is last or stands right before the beginning of another. -/

/-- The fragment that an event completes, if any, and the struct that is open
after it. -/
def advance (packAlignment : Nat) :
    Option PackedStruct → Event → Option Fragment × Option PackedStruct
  | current, .opening name =>
      (current.map .unclosed, some ⟨name, packAlignment, []⟩)
  | some body, .member member =>
      (none, some { body with members := body.members ++ [member] })
  | none, .member member => (some (.loose member), none)
  | some body, .closing => (some (.whole body), none)
  | none, .closing => (some .strayClosing, none)

def arrange (packAlignment : Nat) :
    Option PackedStruct → List Event → List Fragment
  | current, [] => (current.map .unclosed).toList
  | current, event :: rest =>
      (advance packAlignment current event).1.toList ++
        arrange packAlignment (advance packAlignment current event).2 rest

/-- The events that led to the struct that is open. -/
def pending (current : Option PackedStruct) : List Event :=
  (current.map .unclosed).toList.flatMap events

@[simp] theorem pending_none : pending none = [] := rfl

@[simp] theorem pending_some (body : PackedStruct) :
    pending (some body) =
      .opening body.name :: body.members.map .member := by
  simp [pending, events]

/-- One event is neither lost nor moved. -/
theorem events_advance (packAlignment : Nat) (current : Option PackedStruct)
    (event : Event) :
    (advance packAlignment current event).1.toList.flatMap events ++
        pending (advance packAlignment current event).2 =
      pending current ++ [event] := by
  cases event with
  | opening name => cases current <;> simp [advance, events]
  | member member => cases current <;> simp [advance, events]
  | closing => cases current <;> simp [advance, events]

theorem events_arrange (packAlignment : Nat) (current : Option PackedStruct)
    (steps : List Event) :
    (arrange packAlignment current steps).flatMap events =
      pending current ++ steps := by
  induction steps generalizing current with
  | nil => simp [arrange, pending]
  | cons event rest induction =>
      rw [arrange, List.flatMap_append, induction, ← List.append_assoc,
        events_advance, List.append_assoc, List.singleton_append]

/-! The packing. -/

def body? : Fragment → Option PackedStruct
  | .whole body => some body
  | .unclosed body => some body
  | .loose _ => none
  | .strayClosing => none

def Packed (packAlignment : Nat) (fragment : Fragment) : Prop :=
  ∀ body, fragment.body? = some body → body.packAlignment = packAlignment

theorem packed_advance {packAlignment : Nat} {current : Option PackedStruct}
    (packed : ∀ body, current = some body →
      body.packAlignment = packAlignment) (event : Event) :
    (∀ fragment, (advance packAlignment current event).1 = some fragment →
        fragment.Packed packAlignment) ∧
      ∀ body, (advance packAlignment current event).2 = some body →
        body.packAlignment = packAlignment := by
  cases event <;> cases current <;> simp_all [advance, Packed, body?]

theorem packed_arrange {packAlignment : Nat} {current : Option PackedStruct}
    (packed : ∀ body, current = some body →
      body.packAlignment = packAlignment) (steps : List Event) :
    ∀ fragment ∈ arrange packAlignment current steps,
      fragment.Packed packAlignment := by
  induction steps generalizing current with
  | nil =>
      intro fragment member
      cases current with
      | none => simp [arrange] at member
      | some body =>
          have fragment_eq : fragment = .unclosed body := by
            simpa [arrange] using member
          subst fragment_eq
          simpa [Packed, body?] using packed
  | cons event rest induction =>
      intro fragment member
      obtain ⟨completed_packed, next_packed⟩ := packed_advance packed event
      rw [arrange, List.mem_append, Option.mem_toList] at member
      rcases member with completed | later
      · exact completed_packed fragment completed
      · exact induction next_packed fragment later

/-! The order of fragments. -/

def Opens : Fragment → Prop
  | .whole _ => True
  | .unclosed _ => True
  | .loose _ => False
  | .strayClosing => False

/-- What may stand right behind what. -/
def Adjoins : Fragment → Fragment → Prop
  | .unclosed _, next => next.Opens
  | _, _ => True

/-- An unclosed struct is last, or the next fragment begins a struct. -/
def Placed (fragments : List Fragment) : Prop :=
  fragments.IsChain Adjoins

theorem opens_of_head_arrange {packAlignment : Nat} {body : PackedStruct}
    {steps : List Event} {first : Fragment}
    (head : first ∈ (arrange packAlignment (some body) steps).head?) :
    first.Opens := by
  induction steps generalizing body with
  | nil =>
      cases head
      trivial
  | cons event rest induction =>
      cases event with
      | opening name =>
          cases head
          trivial
      | member member => exact induction head
      | closing =>
          cases head
          trivial

theorem placed_arrange (packAlignment : Nat) (current : Option PackedStruct)
    (steps : List Event) : Placed (arrange packAlignment current steps) := by
  induction steps generalizing current with
  | nil =>
      cases current with
      | none => exact List.IsChain.nil
      | some body => exact List.IsChain.singleton _
  | cons event rest induction =>
      rw [arrange]
      cases completed : (advance packAlignment current event).1 with
      | none => exact induction _
      | some fragment =>
          refine (induction _).cons fun next head => ?_
          cases event with
          | opening name =>
              -- Only here can the fragment be an unclosed one, and a struct
              -- is open behind it.
              have opens : next.Opens := opens_of_head_arrange head
              cases fragment with
              | unclosed body => exact opens
              | _ => trivial
          | member member =>
              cases current <;> cases completed
              trivial
          | closing => cases current <;> cases completed <;> trivial

/-! Arranging the events of fragments again. -/

theorem arrange_members (packAlignment : Nat) (body : PackedStruct)
    (members : List Member) (steps : List Event) :
    arrange packAlignment (some body) (members.map .member ++ steps) =
      arrange packAlignment
        (some { body with members := body.members ++ members }) steps := by
  induction members generalizing body with
  | nil => simp
  | cons member rest induction =>
      rw [List.map_cons, List.cons_append, arrange]
      simp only [advance, Option.toList_none, List.nil_append]
      rw [induction]
      simp only [List.append_assoc, List.singleton_append]

/-- The events of a struct, met while none is open, open that very struct. -/
theorem arrange_unclosed {packAlignment : Nat} {body : PackedStruct}
    (packed : body.packAlignment = packAlignment) (steps : List Event) :
    arrange packAlignment none ((unclosed body).events ++ steps) =
      arrange packAlignment (some body) steps := by
  subst packed
  rw [events, List.cons_append, arrange]
  simp only [advance, Option.map_none, Option.toList_none, List.nil_append]
  rw [arrange_members]
  rfl

theorem arrange_whole {packAlignment : Nat} {body : PackedStruct}
    (packed : body.packAlignment = packAlignment) (steps : List Event) :
    arrange packAlignment none ((whole body).events ++ steps) =
      .whole body :: arrange packAlignment none steps := by
  have split : (whole body).events ++ steps =
      (unclosed body).events ++ (.closing :: steps) := by
    simp [events]
  rw [split, arrange_unclosed packed]
  rfl

/-- A struct that begins while another is open leaves that one unclosed. -/
theorem arrange_some_of_opens (packAlignment : Nat) (body : PackedStruct)
    {next : Fragment} (opens : next.Opens) (steps : List Event) :
    arrange packAlignment (some body) (next.events ++ steps) =
      .unclosed body :: arrange packAlignment none (next.events ++ steps) := by
  cases next with
  | whole inner => rfl
  | unclosed inner => rfl
  | loose member => exact opens.elim
  | strayClosing => exact opens.elim

theorem arrange_events {packAlignment : Nat} {fragments : List Fragment}
    (packed : ∀ fragment ∈ fragments, fragment.Packed packAlignment)
    (placed : Placed fragments) :
    arrange packAlignment none (fragments.flatMap events) = fragments := by
  induction fragments with
  | nil => rfl
  | cons fragment rest induction =>
      obtain ⟨fragment_packed, rest_packed⟩ := List.forall_mem_cons.mp packed
      obtain ⟨adjoins, rest_placed⟩ := List.isChain_cons.mp placed
      have rebuilt := induction rest_packed rest_placed
      rw [List.flatMap_cons]
      cases fragment with
      | whole body =>
          rw [arrange_whole (fragment_packed body rfl), rebuilt]
      | unclosed body =>
          rw [arrange_unclosed (fragment_packed body rfl)]
          cases rest with
          | nil => rfl
          | cons next others =>
              rw [List.flatMap_cons] at rebuilt ⊢
              rw [arrange_some_of_opens _ _ (adjoins next rfl), rebuilt]
      | loose member =>
          exact congrArg (List.cons (.loose member)) rebuilt
      | strayClosing => exact congrArg (List.cons .strayClosing) rebuilt

/-! Well formed sequences. -/

def IsWhole (fragment : Fragment) : Prop :=
  ∃ body, fragment = .whole body

theorem placed_of_whole {fragments : List Fragment}
    (whole : ∀ fragment ∈ fragments, fragment.IsWhole) : Placed fragments := by
  induction fragments with
  | nil => exact List.IsChain.nil
  | cons fragment rest induction =>
      obtain ⟨⟨body, rfl⟩, rest_whole⟩ := List.forall_mem_cons.mp whole
      exact (induction rest_whole).cons fun _ _ => trivial

theorem arrange_structs_iff (packAlignment : Nat) (steps : List Event)
    (fragments : List Fragment) :
    (arrange packAlignment none steps = fragments ∧
        ∀ fragment ∈ fragments, fragment.IsWhole) ↔
      ∃ structs : List PackedStruct,
        (∀ body ∈ structs, body.packAlignment = packAlignment) ∧
        fragments = structs.map whole ∧
        steps = structs.flatMap fun body => (whole body).events := by
  constructor
  · intro arranged_whole
    obtain ⟨rfl, whole_all⟩ := arranged_whole
    have ranged : arrange packAlignment none steps ∈
        {fragments | ∀ fragment ∈ fragments, fragment ∈ Set.range whole} := by
      intro fragment listed
      obtain ⟨body, rfl⟩ := whole_all fragment listed
      exact ⟨body, rfl⟩
    rw [← Set.range_list_map] at ranged
    obtain ⟨structs, arranged⟩ := ranged
    refine ⟨structs, ?_, arranged.symm, ?_⟩
    · intro body listed
      have member : whole body ∈ arrange packAlignment none steps :=
        arranged ▸ List.mem_map_of_mem listed
      exact packed_arrange (by simp) steps (whole body) member body rfl
    · rw [← List.flatMap_map, arranged, events_arrange, pending_none,
        List.nil_append]
  · intro described
    obtain ⟨structs, packed, rfl, rfl⟩ := described
    have whole_all : ∀ fragment ∈ structs.map whole, fragment.IsWhole := by
      intro fragment listed
      obtain ⟨body, _, rfl⟩ := List.mem_map.mp listed
      exact ⟨body, rfl⟩
    have packed_all : ∀ fragment ∈ structs.map whole,
        fragment.Packed packAlignment := by
      intro fragment listed
      obtain ⟨body, member, rfl⟩ := List.mem_map.mp listed
      rintro _ ⟨rfl⟩
      exact packed body member
    rw [← List.flatMap_map]
    exact ⟨arrange_events packed_all (placed_of_whole whole_all), whole_all⟩

end TilingHeader.Fragment
