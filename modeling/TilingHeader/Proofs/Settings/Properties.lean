import Mathlib.Data.List.Nodup
import TilingHeader.Settings.Document

namespace TilingHeader.Settings

/-! The six properties that a document can set.  A field of a document fits if
its key is that of a property and its value has the type of it; then it sets
this property and leaves the others as they are.  A field that does not fit is
refused, whatever has been set before. -/

open Toml (Document Field Located Value)

inductive Property where
  | suffix
  | packAlignment
  | includeGuard
  | debugMacro
  | debugIncludes
  | strict
  deriving DecidableEq, Repr

/-- What a property can be set to. -/
inductive Datum where
  | text (content : String)
  | number (value : Nat)
  | truth (value : Bool)
  | texts (contents : List String)
  deriving DecidableEq, Repr

namespace Property

def key : Property → String
  | .suffix => "suffix"
  | .packAlignment => "pack-alignment"
  | .includeGuard => "include-guard"
  | .debugMacro => "debug-macro"
  | .debugIncludes => "debug-includes"
  | .strict => "strict"

def want : Property → Want
  | .suffix => .text
  | .packAlignment => .number
  | .includeGuard => .text
  | .debugMacro => .text
  | .debugIncludes => .sequence
  | .strict => .truth

def all : List Property :=
  [.suffix, .packAlignment, .includeGuard, .debugMacro, .debugIncludes, .strict]

theorem mem_all (property : Property) : property ∈ all := by
  cases property <;> decide

theorem map_key_all : all.map key = keyNames := rfl

theorem key_injective : Function.Injective key := by
  have distinct : (all.map key).Nodup := by decide +kernel
  intro property other same
  exact List.inj_on_of_nodup_map distinct property.mem_all other.mem_all same

theorem key_mem_keyNames (property : Property) : property.key ∈ keyNames :=
  List.mem_map_of_mem property.mem_all

theorem exists_key_of_mem {name : String} (known : name ∈ keyNames) :
    ∃ property : Property, name = property.key := by
  obtain ⟨property, _, key_eq⟩ := List.mem_map.mp (map_key_all ▸ known)
  exact ⟨property, key_eq.symm⟩

end Property

def get (settings : Settings) : Property → Datum
  | .suffix => .text settings.suffix
  | .packAlignment => .number settings.packAlignment
  | .includeGuard => .text settings.includeGuard
  | .debugMacro => .text settings.debugMacro
  | .debugIncludes => .texts settings.debugIncludes
  | .strict => .truth settings.strict

theorem eq_of_get {settings other : Settings}
    (same : ∀ property, settings.get property = other.get property) :
    settings = other := by
  cases settings
  cases other
  rw [mk.injEq]
  exact ⟨Datum.text.inj (same .suffix), Datum.number.inj (same .packAlignment),
    Datum.text.inj (same .includeGuard), Datum.text.inj (same .debugMacro),
    Datum.texts.inj (same .debugIncludes), Datum.truth.inj (same .strict)⟩

/-! Values as data. -/

def textOf? : Value → Option String
  | .text content => some content
  | _ => none

namespace Datum

def want : Datum → Want
  | .text _ => .text
  | .number _ => .number
  | .truth _ => .truth
  | .texts _ => .sequence

/-- A number has 32 bits and no sign, and a sequence holds texts only. -/
def ofValue? : Value → Option Datum
  | .text content => some (.text content)
  | .integer value =>
      if 0 ≤ value ∧ value < numberBound then some (.number value.toNat) else none
  | .boolean value => some (.truth value)
  | .sequence items =>
      (items.mapM fun item => textOf? item.content).map .texts
  | _ => none

end Datum

theorem want_get (settings : Settings) (property : Property) :
    (settings.get property).want = property.want := by
  cases property <;> rfl

/-- The type that a value has, if any property has it. -/
def Want.ofValue? : Value → Option Want
  | .text _ => some .text
  | .integer _ => some .number
  | .boolean _ => some .truth
  | .sequence _ => some .sequence
  | _ => none

theorem Datum.want_of_ofValue? {value : Value} {datum : Datum}
    (means : ofValue? value = some datum) :
    Want.ofValue? value = some datum.want := by
  cases value with
  | text content =>
      cases means
      rfl
  | integer number =>
      rw [ofValue?] at means
      split at means <;> cases means
      rfl
  | boolean truth =>
      cases means
      rfl
  | sequence items =>
      obtain ⟨contents, _, rfl⟩ := Option.map_eq_some_iff.mp means
      rfl
  | float number => cases means
  | moment => cases means
  | table => cases means

/-! Values that a property takes. -/

section Value

variable {value : Located Value}

theorem eq_ok_iff_toOption {ε α : Type} (result : Except ε α) (content : α) :
    result = .ok content ↔ result.toOption = some content := by
  cases result <;> simp [Except.toOption]

theorem toOption_fitText (value : Located Value) :
    (fitText value).toOption = textOf? value.content := by
  unfold fitText
  cases value.content <;> rfl

theorem toOption_mapM_fitText (items : List (Located Value)) :
    (items.mapM fitText).toOption =
      items.mapM fun item => textOf? item.content := by
  induction items with
  | nil => rfl
  | cons item rest induction =>
      rw [List.mapM_cons, List.mapM_cons, ← induction, ← toOption_fitText]
      cases fitText item with
      | error mismatch => rfl
      | ok content => cases rest.mapM fitText <;> rfl

/-- A value of another type is neither taken nor such a datum. -/
theorem misfit_eq_ok_iff {α : Type} {found : Value} {want : Want} {content : α}
    {datum : Datum} (wanted : datum.want = want)
    (unlike : Want.ofValue? found ≠ some want) :
    (misfit value want : Fitting α) = .ok content ↔
      Datum.ofValue? found = some datum := by
  subst wanted
  constructor
  · intro taken
    cases taken
  · intro means
    exact absurd (Datum.want_of_ofValue? means) unlike

theorem fitText_eq_ok_iff (content : String) :
    fitText value = .ok content ↔
      Datum.ofValue? value.content = some (.text content) := by
  unfold fitText
  cases value.content with
  | text found => simp [Datum.ofValue?]
  | _ => exact misfit_eq_ok_iff rfl (by simp [Want.ofValue?])

theorem fitNumber_eq_ok_iff (number : Nat) :
    fitNumber value = .ok number ↔
      Datum.ofValue? value.content = some (.number number) := by
  unfold fitNumber
  cases value.content with
  | integer found =>
      simp only [Datum.ofValue?]
      split <;> simp
  | _ => exact misfit_eq_ok_iff rfl (by simp [Want.ofValue?])

theorem fitTruth_eq_ok_iff (truth : Bool) :
    fitTruth value = .ok truth ↔
      Datum.ofValue? value.content = some (.truth truth) := by
  unfold fitTruth
  cases value.content with
  | boolean found => simp [Datum.ofValue?]
  | _ => exact misfit_eq_ok_iff rfl (by simp [Want.ofValue?])

theorem fitTexts_eq_ok_iff (contents : List String) :
    fitTexts value = .ok contents ↔
      Datum.ofValue? value.content = some (.texts contents) := by
  unfold fitTexts
  cases value.content with
  | sequence items =>
      rw [eq_ok_iff_toOption, toOption_mapM_fitText]
      simp [Datum.ofValue?]
  | _ => exact misfit_eq_ok_iff rfl (by simp [Want.ofValue?])

end Value

/-! One field. -/

/-- A field, less the places where its key and its value stand. -/
structure Entry where
  key : String
  datum? : Option Datum
  deriving DecidableEq, Repr

def entry (field : Field) : Entry :=
  ⟨field.key.name, Datum.ofValue? field.value.content⟩

/-- The key is known, and the value has the type of its property. -/
def Fits (entry : Entry) : Prop :=
  ∃ property : Property, entry.key = property.key ∧
    entry.datum?.map Datum.want = some property.want

instance (entry : Entry) : Decidable (Fits entry) :=
  decidable_of_iff
    (∃ property ∈ Property.all, entry.key = property.key ∧
      entry.datum?.map Datum.want = some property.want)
    (by simp [Fits, Property.mem_all])

/-- What is wrong with a field, and where. -/
inductive Misfits (field : Field) : Located Mismatch → Prop
  | unknownKey (unknown : field.key.name ∉ keyNames) :
      Misfits field ⟨field.key.span, .unknownKey field.key.name⟩
  | wrongType {property : Property} (named : field.key.name = property.key)
      (unlike : Want.ofValue? field.value.content ≠ some property.want) :
      Misfits field
        ⟨field.value.span, .wrongType field.value.content property.want⟩
  | outOfRange {property : Property} {value : Int}
      (named : field.key.name = property.key) (wanted : property.want = .number)
      (content_eq : field.value.content = .integer value)
      (outside : ¬(0 ≤ value ∧ value < numberBound)) :
      Misfits field ⟨field.value.span, .outOfRange value⟩
  | wrongItem {property : Property} {items : List (Located Value)}
      {item : Located Value} (named : field.key.name = property.key)
      (wanted : property.want = .sequence)
      (content_eq : field.value.content = .sequence items)
      (listed : item ∈ items) (no_text : textOf? item.content = none) :
      Misfits field ⟨item.span, .wrongType item.content .text⟩

section Field

variable {field : Field} {property : Property} {settings next : Settings}
  {mismatch : Located Mismatch}

theorem mapM_textOf?_eq_none {items : List (Located Value)}
    {item : Located Value} (listed : item ∈ items)
    (no_text : textOf? item.content = none) :
    (items.mapM fun other => textOf? other.content) = none := by
  induction items with
  | nil => cases listed
  | cons first rest induction =>
      rw [List.mapM_cons]
      rcases List.mem_cons.mp listed with rfl | later
      · rw [no_text]
        rfl
      · rw [induction later]
        cases textOf? first.content <;> rfl

theorem Misfits.not_fits (misfits : Misfits field mismatch) :
    ¬ Fits (entry field) := by
  rintro ⟨property, named, typed⟩
  obtain ⟨datum, means, want_eq⟩ := Option.map_eq_some_iff.mp typed
  have same {other : Property} (other_named : field.key.name = other.key) :
      other = property :=
    Property.key_injective (other_named.symm.trans named)
  cases misfits with
  | unknownKey unknown =>
      change field.key.name = property.key at named
      exact unknown (named ▸ property.key_mem_keyNames)
  | wrongType other_named unlike =>
      rw [same other_named, ← want_eq] at unlike
      exact unlike (Datum.want_of_ofValue? means)
  | outOfRange other_named wanted content_eq outside =>
      change Datum.ofValue? field.value.content = some datum at means
      rw [content_eq, Datum.ofValue?, if_neg outside] at means
      cases means
  | wrongItem other_named wanted content_eq listed no_text =>
      change Datum.ofValue? field.value.content = some datum at means
      rw [content_eq, Datum.ofValue?, mapM_textOf?_eq_none listed no_text]
        at means
      cases means

theorem misfits_of_unlike {α : Type} {want : Want}
    (named : field.key.name = property.key) (wanted : property.want = want)
    (unlike : Want.ofValue? field.value.content ≠ some want)
    (failed : (misfit field.value want : Fitting α) = .error mismatch) :
    Misfits field mismatch := by
  cases failed
  subst wanted
  exact .wrongType named unlike

theorem misfits_of_fitText (named : field.key.name = property.key)
    (wanted : property.want = .text)
    (failed : fitText field.value = .error mismatch) :
    Misfits field mismatch := by
  unfold fitText at failed
  cases content_eq : field.value.content with
  | text content =>
      rw [content_eq] at failed
      cases failed
  | _ =>
      rw [content_eq] at failed
      exact misfits_of_unlike named wanted (by simp [content_eq, Want.ofValue?])
        failed

theorem misfits_of_fitNumber (named : field.key.name = property.key)
    (wanted : property.want = .number)
    (failed : fitNumber field.value = .error mismatch) :
    Misfits field mismatch := by
  unfold fitNumber at failed
  cases content_eq : field.value.content with
  | integer value =>
      rw [content_eq] at failed
      dsimp only at failed
      split at failed
      · cases failed
      · rename_i outside
        cases failed
        exact .outOfRange named wanted content_eq outside
  | _ =>
      rw [content_eq] at failed
      exact misfits_of_unlike named wanted (by simp [content_eq, Want.ofValue?])
        failed

theorem misfits_of_fitTruth (named : field.key.name = property.key)
    (wanted : property.want = .truth)
    (failed : fitTruth field.value = .error mismatch) :
    Misfits field mismatch := by
  unfold fitTruth at failed
  cases content_eq : field.value.content with
  | boolean truth =>
      rw [content_eq] at failed
      cases failed
  | _ =>
      rw [content_eq] at failed
      exact misfits_of_unlike named wanted (by simp [content_eq, Want.ofValue?])
        failed

theorem exists_item_of_mapM_fitText {items : List (Located Value)}
    (failed : items.mapM fitText = .error mismatch) :
    ∃ item ∈ items, textOf? item.content = none ∧
      mismatch = ⟨item.span, .wrongType item.content .text⟩ := by
  induction items with
  | nil => cases failed
  | cons first rest induction =>
      rw [List.mapM_cons] at failed
      cases first_fits : fitText first with
      | error found =>
          rw [first_fits] at failed
          cases failed
          have no_text := toOption_fitText first
          rw [first_fits] at no_text
          refine ⟨first, List.mem_cons_self, no_text.symm, ?_⟩
          unfold fitText at first_fits
          split at first_fits
          · cases first_fits
          · cases first_fits
            rfl
      | ok content =>
          rw [first_fits] at failed
          cases rest_fits : rest.mapM fitText with
          | error found =>
              rw [rest_fits] at failed
              cases failed
              obtain ⟨item, listed, described⟩ := induction rest_fits
              exact ⟨item, List.mem_cons_of_mem first listed, described⟩
          | ok contents =>
              rw [rest_fits] at failed
              cases failed

theorem misfits_of_fitTexts (named : field.key.name = property.key)
    (wanted : property.want = .sequence)
    (failed : fitTexts field.value = .error mismatch) :
    Misfits field mismatch := by
  unfold fitTexts at failed
  cases content_eq : field.value.content with
  | sequence items =>
      rw [content_eq] at failed
      obtain ⟨item, listed, no_text, rfl⟩ := exists_item_of_mapM_fitText failed
      exact .wrongItem named wanted content_eq listed no_text
  | _ =>
      rw [content_eq] at failed
      exact misfits_of_unlike named wanted (by simp [content_eq, Want.ofValue?])
        failed

theorem get_of_fit {α : Type} {fitted : Fitting α} {update : α → Settings}
    {make : α → Datum}
    (fitted_iff : ∀ content, fitted = .ok content ↔
      Datum.ofValue? field.value.content = some (make content))
    (updated : ∀ content, (update content).get =
      Function.update settings.get property (make content))
    (set : (fitted >>= fun content => pure (update content)) = .ok next) :
    ∃ datum, Datum.ofValue? field.value.content = some datum ∧
      next.get = Function.update settings.get property datum := by
  cases outcome : fitted with
  | error found =>
      rw [outcome] at set
      cases set
  | ok content =>
      rw [outcome] at set
      cases set
      exact ⟨make content, (fitted_iff content).mp outcome, updated content⟩

/-- A known key sets its property and no other. -/
theorem get_of_setField (named : field.key.name = property.key)
    (set : setField settings field = .ok next) :
    ∃ datum, Datum.ofValue? field.value.content = some datum ∧
      next.get = Function.update settings.get property datum := by
  unfold setField at set
  rw [named] at set
  cases property with
  | suffix =>
      exact get_of_fit fitText_eq_ok_iff
        (fun _ => funext fun other => by cases other <;> rfl) set
  | packAlignment =>
      exact get_of_fit fitNumber_eq_ok_iff
        (fun _ => funext fun other => by cases other <;> rfl) set
  | includeGuard =>
      exact get_of_fit fitText_eq_ok_iff
        (fun _ => funext fun other => by cases other <;> rfl) set
  | debugMacro =>
      exact get_of_fit fitText_eq_ok_iff
        (fun _ => funext fun other => by cases other <;> rfl) set
  | debugIncludes =>
      exact get_of_fit fitTexts_eq_ok_iff
        (fun _ => funext fun other => by cases other <;> rfl) set
  | strict =>
      exact get_of_fit fitTruth_eq_ok_iff
        (fun _ => funext fun other => by cases other <;> rfl) set

theorem error_of_bind_pure {α : Type} {fitted : Fitting α}
    {update : α → Settings}
    (failed : (fitted >>= fun content => pure (update content)) =
      .error mismatch) :
    fitted = .error mismatch := by
  cases fitted with
  | error found =>
      cases failed
      rfl
  | ok content => cases failed

theorem setField_of_unknown (unknown : field.key.name ∉ keyNames) :
    setField settings field =
      .error ⟨field.key.span, .unknownKey field.key.name⟩ := by
  unfold setField
  split
  case h_7 => rfl
  all_goals
    rename_i named
    rw [named] at unknown
    exact absurd (by decide) unknown

/-- What is refused has something wrong with it. -/
theorem misfits_of_setField (failed : setField settings field = .error mismatch) :
    Misfits field mismatch := by
  by_cases known : field.key.name ∈ keyNames
  · obtain ⟨property, named⟩ := Property.exists_key_of_mem known
    unfold setField at failed
    rw [named] at failed
    cases property with
    | suffix =>
        exact misfits_of_fitText named rfl (error_of_bind_pure failed)
    | packAlignment =>
        exact misfits_of_fitNumber named rfl (error_of_bind_pure failed)
    | includeGuard =>
        exact misfits_of_fitText named rfl (error_of_bind_pure failed)
    | debugMacro =>
        exact misfits_of_fitText named rfl (error_of_bind_pure failed)
    | debugIncludes =>
        exact misfits_of_fitTexts named rfl (error_of_bind_pure failed)
    | strict =>
        exact misfits_of_fitTruth named rfl (error_of_bind_pure failed)
  · rw [setField_of_unknown known] at failed
    cases failed
    exact .unknownKey known

theorem known_of_setField (set : setField settings field = .ok next) :
    ∃ property : Property, field.key.name = property.key := by
  by_cases known : field.key.name ∈ keyNames
  · exact Property.exists_key_of_mem known
  · rw [setField_of_unknown known] at set
    cases set

theorem fits_of_setField (set : setField settings field = .ok next) :
    Fits (entry field) := by
  obtain ⟨property, named⟩ := known_of_setField set
  obtain ⟨datum, means, get_eq⟩ := get_of_setField named set
  refine ⟨property, named, ?_⟩
  rw [← want_get next property, get_eq, Function.update_self, entry, means,
    Option.map_some]

end Field

end TilingHeader.Settings
