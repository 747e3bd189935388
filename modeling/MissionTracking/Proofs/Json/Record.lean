import Mathlib.Data.List.Nodup
import MissionTracking.Json.Record
import MissionTracking.Proofs.Json.Reading

/-!
Readers that undo writers. A writer and a reader are faithful when every value can be spelled and is
read back from what was written. Single values are, and so are optional values, lists and records of
them.
-/
namespace MissionTracking.Json

structure Faithful (write : α → Json) (read : Json → Option α) : Prop where
  plain : ∀ a, (write a).Plain
  reads : ∀ a, read (write a) = some a

theorem Faithful.bind {write : α → Json} {read : Json → Option α}
    (faithful : Faithful write read) (a : α)
    (next : α → Option β) : (read (write a) >>= next) = next a := by
  rw [faithful.reads]
  rfl

@[simp] theorem plain_string (s : String) : (string s).Plain := .string s

theorem faithful_string : Faithful .string string? where
  plain := .string
  reads _ := rfl

theorem faithful_bool : Faithful .bool bool? where
  plain := .bool
  reads _ := rfl

theorem intIn?_int {lo hi n : Int} (inside : lo ≤ n ∧ n < hi) : (int n).intIn? lo hi = some n :=
  if_pos inside

theorem faithful_uint32 : Faithful ofUInt32 uint32? where
  plain n := .int _
  reads n := by
    have inside : 0 ≤ (n.toNat : Int) ∧ (n.toNat : Int) < 4294967296 := by have := n.toNat_lt; omega
    simp [uint32?, ofUInt32, intIn?_int inside]

theorem faithful_uint64 : Faithful ofUInt64 uint64? where
  plain n := .int _
  reads n := by
    have inside : 0 ≤ (n.toNat : Int) ∧ (n.toNat : Int) < 18446744073709551616 := by
      have := n.toNat_lt; omega
    simp [uint64?, ofUInt64, intIn?_int inside]

theorem faithful_int64 : Faithful ofInt64 int64? where
  plain n := .int _
  reads n := by
    have inside : -9223372036854775808 ≤ n.toInt ∧ n.toInt < 9223372036854775808 :=
      ⟨n.le_toInt, n.toInt_lt⟩
    simp [int64?, ofInt64, intIn?_int inside]

theorem faithful_oneOf {all : List α} {name : α → String} (complete : ∀ a, a ∈ all)
    (distinct : ∀ a b, name a = name b → a = b) :
    Faithful (fun a => .string (name a)) (oneOf? all name) where
  plain a := .string _
  reads a := by
    have exists_found : (all.find? fun b => name b == name a).isSome = true :=
      List.find?_isSome.mpr ⟨a, complete a, beq_self_eq_true (name a)⟩
    obtain ⟨b, found⟩ := Option.isSome_iff_exists.mp exists_found
    have fits : (name b == name a) = true := List.find?_some (p := fun b => name b == name a) found
    rw [oneOf?, found, distinct b a (beq_iff_eq.mp fits)]

theorem Faithful.option {write : α → Json} {read : Json → Option α} (faithful : Faithful write read)
    (strict : read .null = none) : Faithful (ofOption write) (optionOf? read) where
  plain a := by
    cases a with
    | none => exact .null
    | some a => exact faithful.plain a
  reads a := by
    cases a with
    | none => rfl
    | some a =>
      have read_write := faithful.reads a
      have proper : write a ≠ .null := by
        intro null
        rw [null, strict] at read_write
        cases read_write
      rw [ofOption, optionOf?, read_write, Option.map_some]
      exact proper

theorem Faithful.list {write : α → Json} {read : Json → Option α} (faithful : Faithful write read) :
    Faithful (ofList write) (listOf? read) where
  plain as := by
    refine .array fun j member => ?_
    obtain ⟨a, _, rfl⟩ := List.mem_map.mp member
    exact faithful.plain a
  reads as := by
    rw [ofList, listOf?]
    induction as with
    | nil => rfl
    | cons a as ih => simp [faithful.reads, ih]

@[simp] theorem plain_object {members : List (String × Json)} :
    (object members).Plain ↔ ∀ m ∈ members, m.2.Plain := by
  constructor
  · intro plain
    cases plain with
    | object each => exact each
  · exact .object

theorem record?_object {fields : List String} {members : List (String × Json)}
    (names : members.map Prod.fst = fields) (distinct : fields.Nodup) :
    (object members).record? fields = some members := by
  have once :
      (fields.all fun f => decide ((members.filter fun m => m.1 == f).length ≤ 1)) = true := by
    refine List.all_eq_true.mpr fun f _ => decide_eq_true ?_
    have count := List.nodup_iff_count_le_one.mp distinct f
    rw [← names, List.count, List.countP_map] at count
    exact List.countP_eq_length_filter ▸ count
  rw [record?, if_pos once]

theorem record?_bind {fields : List String} {members : List (String × Json)}
    (next : Record → Option α) (names : members.map Prod.fst = fields) (distinct : fields.Nodup) :
    ((object members).record? fields >>= next) = next members := by
  rw [record?_object names distinct]
  rfl

theorem Faithful.record {fields : List String} {write : α → List (String × Json)}
    {read : Record → Option α}
    (distinct : fields.Nodup) (names : ∀ a, (write a).map Prod.fst = fields)
    (plain : ∀ a, ∀ m ∈ write a, m.2.Plain) (reads : ∀ a, read (write a) = some a) :
    Faithful (fun a => .object (write a)) (fun j => j.record? fields >>= read) where
  plain a := .object (plain a)
  reads a := by rw [record?_bind read (names a) distinct, reads]

namespace Record

variable {name field : String} {j : Json} {r : Record}

theorem get?_cons :
    get? ((name, j) :: r) field = if field = name then some j else r.get? field := by
  by_cases same : field = name
  · rw [get?, List.lookup_cons, if_pos same, same, beq_self_eq_true]
  · rw [get?, List.lookup_cons, if_neg same, beq_eq_false_iff_ne.mpr same]
    rfl

theorem required_cons {read : Json → Option α} :
    required ((name, j) :: r) field read =
      if field = name then read j else r.required field read := by
  simp only [required, get?_cons]
  split <;> rfl

theorem optional_cons {read : Json → Option α} :
    optional ((name, j) :: r) field read =
      if field = name then optionOf? read j else r.optional field read := by
  simp only [optional, get?_cons]
  by_cases same : field = name
  · simp only [if_pos same]
  · simp only [if_neg same]

theorem withDefault_cons {default : α} {read : Json → Option α} :
    withDefault ((name, j) :: r) field default read =
      if field = name then read j else r.withDefault field default read := by
  simp only [withDefault, get?_cons]
  by_cases same : field = name
  · simp only [if_pos same]
  · simp only [if_neg same]

end Record

theorem isHeld_ofUInt32 (n : UInt32) (depth : Nat) : (ofUInt32 n).isHeld depth = true := by
  have small : n.toNat ≤ Literal.maxWord := by
    have := n.toNat_lt
    rw [Literal.maxWord]
    omega
  simp [ofUInt32, isHeld, small]

theorem tagged?_object {tag variant : String} {above : Nat} {members : List (String × Json)}
    (held : (object ((tag, .string variant) :: members)).isHeld (maxDepth - above) = true)
    (absent : tag ∉ members.map Prod.fst) :
    (object ((tag, .string variant) :: members)).tagged? tag above =
    some (variant, .object members) := by
  have others : ∀ m ∈ members, m.1 ≠ tag :=
    fun m member same => absent (List.mem_map.mpr ⟨m, member, same⟩)
  have none_left : (members.filter fun m => m.1 == tag) = [] :=
    List.filter_eq_nil_iff.mpr fun m member => by simp [others m member]
  have all_left : (members.filter fun m => m.1 != tag) = members :=
    List.filter_eq_self.mpr fun m member => by simp [others m member]
  simp [tagged?, held, none_left, all_left]

end MissionTracking.Json
