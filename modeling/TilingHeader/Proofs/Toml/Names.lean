import Mathlib.Data.List.Nodup
import TilingHeader.Toml.Document

namespace TilingHeader.Toml

/-! A document names no key twice.  While it is read, a field that is new in a
table comes with a name that no other has there; every other change leaves the
names of the table as they are, or takes one out and puts it behind the rest. -/

namespace Fields

def names (fields : Fields) : List String :=
  fields.map fun field => field.1.name

@[simp] theorem names_cons (key : Key) (node : Node) (fields : Fields) :
    names ((key, node) :: fields) = key.name :: names fields := rfl

@[simp] theorem names_concat (fields : Fields) (key : Key) (node : Node) :
    names (fields ++ [(key, node)]) = names fields ++ [key.name] := by
  simp [names]

theorem get?_eq_none_iff (name : String) (fields : Fields) :
    get? name fields = none ↔ name ∉ names fields := by
  induction fields with
  | nil => simp [get?, names]
  | cons field rest induction =>
      obtain ⟨key, node⟩ := field
      rw [get?, names_cons, List.mem_cons, not_or]
      by_cases same : key.name = name
      · simp [same]
      · rw [if_neg same, induction]
        exact (and_iff_right (Ne.symm same)).symm

@[simp] theorem names_replace (name : String) (new : Node) (fields : Fields) :
    names (replace name new fields) = names fields := by
  induction fields with
  | nil => rfl
  | cons field rest induction =>
      obtain ⟨key, node⟩ := field
      rw [replace]
      split
      · rfl
      · rw [names_cons, names_cons, induction]

theorem nodup_names_replace {fields : Fields} (distinct : (names fields).Nodup)
    (name : String) (new : Node) : (names (replace name new fields)).Nodup := by
  rw [names_replace]
  exact distinct

theorem not_mem_names_without (name : String) (fields : Fields) :
    name ∉ names (without name fields) := by
  intro listed
  obtain ⟨field, kept, same⟩ := List.mem_map.mp listed
  have apart := (List.mem_filter.mp kept).2
  simp [same] at apart

theorem nodup_names_without {fields : Fields} (distinct : (names fields).Nodup)
    (name : String) : (names (without name fields)).Nodup :=
  distinct.sublist (List.filter_sublist.map _)

theorem nodup_names_concat {fields : Fields} (distinct : (names fields).Nodup)
    {key : Key} (absent : key.name ∉ names fields) (node : Node) :
    (names (fields ++ [(key, node)])).Nodup := by
  rw [names_concat]
  exact List.nodup_append_comm.mp (distinct.cons absent)

end Fields

namespace Node

/-- No two fields right inside of the table have one name. -/
def Distinct : Node → Prop
  | .table _ _ fields => (Fields.names fields).Nodup
  | _ => True

/-- What a change of a table keeps is kept at the top, wherever the table is. -/
theorem distinct_of_within {made : TableForm} {change : Node → Option Node}
    (kept : ∀ {node changed : Node}, node.Distinct →
      change node = some changed → changed.Distinct)
    {path : List Key} {node grown : Node} (distinct : node.Distinct)
    (grows : within made change path node = some grown) :
    grown.Distinct := by
  cases path with
  | nil => exact kept distinct (by simpa only [within] using grows)
  | cons key rest =>
      cases node with
      | leaf value => cases grows
      | series tables => cases grows
      | table form span fields =>
          rw [within] at grows
          split at grows
          · rename_i absent
            obtain ⟨child, _, ⟨⟩⟩ := Option.bind_eq_some_iff.mp grows
            exact Fields.nodup_names_concat distinct
              ((Fields.get?_eq_none_iff _ _).mp absent) child
          · cases grows
          · split at grows
            · cases grows
            · obtain ⟨last, _, ⟨⟩⟩ := Option.bind_eq_some_iff.mp grows
              exact Fields.nodup_names_replace distinct _ _
          · split at grows
            · cases grows
            · obtain ⟨child, _, ⟨⟩⟩ := Option.bind_eq_some_iff.mp grows
              exact Fields.nodup_names_replace distinct _ _

theorem distinct_of_assign {outer : List Key} {key : Key}
    {value : Located Value} {node grown : Node} (distinct : node.Distinct)
    (assigned : node.assign outer key value = some grown) :
    grown.Distinct := by
  refine distinct_of_within ?_ distinct assigned
  intro node changed distinct changes
  split at changes
  · split at changes
    · cases changes
    · rename_i allowed
      cases changes
      have absent : Fields.get? key.name _ = none :=
        Option.not_isSome_iff_eq_none.mp fun has => allowed (.inr has)
      exact Fields.nodup_names_concat distinct
        ((Fields.get?_eq_none_iff _ _).mp absent) _
  · cases changes

theorem distinct_extend (value : Located Value) {node : Node}
    (distinct : node.Distinct) : (node.extend value).Distinct := by
  unfold extend
  split <;> exact distinct

theorem distinct_of_openTable {key : Key} {span : Span} {node grown : Node}
    (distinct : node.Distinct)
    (opened : node.openTable key span = some grown) : grown.Distinct := by
  unfold openTable at opened
  split at opened
  · split at opened
    · rename_i absent
      cases opened
      exact Fields.nodup_names_concat distinct
        ((Fields.get?_eq_none_iff _ _).mp absent) _
    · cases opened
      exact Fields.nodup_names_concat
        (Fields.nodup_names_without distinct key.name)
        (Fields.not_mem_names_without _ _) _
    · cases opened
  · cases opened

theorem distinct_of_openElement {key : Key} {span : Span} {node grown : Node}
    (distinct : node.Distinct)
    (opened : node.openElement key span = some grown) : grown.Distinct := by
  unfold openElement at opened
  split at opened
  · dsimp only at opened
    split at opened
    · rename_i absent
      cases opened
      exact Fields.nodup_names_concat distinct
        ((Fields.get?_eq_none_iff _ _).mp absent) _
    · cases opened
      exact Fields.nodup_names_replace distinct _ _
    · cases opened
  · cases opened

end Node

namespace Document

def names (document : Document) : List String :=
  document.map fun field => field.key.name

theorem distinct_of_step {progress next : Progress} {line : Reader.Line}
    (distinct : progress.top.Distinct) (stepped : step progress line = some next) :
    next.top.Distinct := by
  cases line with
  | blank =>
      cases stepped
      exact distinct
  | assign field =>
      obtain ⟨top, grows, ⟨⟩⟩ := Option.bind_eq_some_iff.mp stepped
      refine Node.distinct_of_within ?_ distinct grows
      intro node changed node_distinct changes
      obtain ⟨grown, assigned, ⟨⟩⟩ := Option.bind_eq_some_iff.mp changes
      exact Node.distinct_extend field.value
        (Node.distinct_of_assign node_distinct assigned)
  | table name span =>
      obtain ⟨⟨outer, last⟩, _, opens⟩ := Option.bind_eq_some_iff.mp stepped
      obtain ⟨top, grows, ⟨⟩⟩ := Option.bind_eq_some_iff.mp opens
      exact Node.distinct_of_within Node.distinct_of_openTable distinct grows
  | element name span =>
      obtain ⟨⟨outer, last⟩, _, opens⟩ := Option.bind_eq_some_iff.mp stepped
      obtain ⟨top, grows, ⟨⟩⟩ := Option.bind_eq_some_iff.mp opens
      exact Node.distinct_of_within Node.distinct_of_openElement distinct grows

theorem distinct_of_foldlM {progress next : Progress}
    (distinct : progress.top.Distinct) {lines : List Reader.Line}
    (folded : lines.foldlM step progress = some next) :
    next.top.Distinct := by
  induction lines generalizing progress with
  | nil =>
      cases folded
      exact distinct
  | cons line rest induction =>
      rw [List.foldlM_cons] at folded
      obtain ⟨middle, stepped, onward⟩ := Option.bind_eq_some_iff.mp folded
      exact induction (distinct_of_step distinct stepped) onward

theorem distinct_start : start.top.Distinct :=
  List.nodup_nil

theorem names_fields (form : TableForm) (span : Option Span)
    (contents : Fields) :
    names (fields (.table form span contents)) = contents.names := by
  simp only [names, fields, Fields.names, List.map_map]
  rfl

theorem nodup_names_of_read? {text : String} {document : Document}
    (given : read? text = some document) : document.names.Nodup := by
  obtain ⟨⟨lines, rest⟩, _, folds⟩ := Option.bind_eq_some_iff.mp given
  obtain ⟨progress, folded, ⟨⟩⟩ := Option.bind_eq_some_iff.mp folds
  have distinct : progress.top.Distinct :=
    distinct_of_foldlM distinct_start folded
  cases top_eq : progress.top with
  | leaf value => exact List.nodup_nil
  | series tables => exact List.nodup_nil
  | table form span contents =>
      rw [names_fields]
      rw [top_eq] at distinct
      exact distinct

end Document

end TilingHeader.Toml
