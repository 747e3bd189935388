import MissionTracking.Proofs.Wire.Records

/-!
Documents of whole values. Main statement: whatever is stored or sent is read back from its text as
it was, and a text that spells a value in another way leads to the same value once it is written
again. Values that name their variant are read only as the variant they name.
-/
namespace MissionTracking

namespace Json

def encode (write : α → Json) (a : α) : String := (write a).text

def decode? (read : Json → Option α) (text : String) : Option α := (parse? text).bind read

structure RoundTrips (write : α → Json) (read : Json → Option α) : Prop where
  decode_encode : ∀ a, decode? read (encode write a) = some a
  /-- The text that is accepted need not be the one the writer chooses. -/
  rewritten : ∀ text again, (decode? read text).map (encode write) = some again →
    decode? read again = decode? read text
  distinct : ∀ a b, encode write a = encode write b → a = b

theorem Faithful.roundTrips {write : α → Json} {read : Json → Option α}
    (faithful : Faithful write read) : RoundTrips write read := by
  have back : ∀ a, decode? read (encode write a) = some a := by
    intro a
    rw [decode?, encode, (faithful.plain a).parse?_text, Option.bind_some, faithful.reads]
  refine ⟨back, ?_, ?_⟩
  · intro text again written
    obtain ⟨a, decoded, rfl⟩ := Option.map_eq_some_iff.mp written
    rw [back, decoded]
  · intro a b same
    have decoded := back a
    rw [same, back b] at decoded
    exact (Option.some.inj decoded).symm

end Json

open Json

theorem StatusEvent.level_of_ofRecord? {j : Json} {l : Level} {e : StatusEvent}
    (read : ofRecord? j l = some e) : e.level = l := by
  cases l with
  | mission =>
    simp only [ofRecord?, Option.bind_eq_bind, Option.bind_eq_some_iff, Option.some.injEq] at read
    obtain ⟨_, _, _, _, _, _, rfl⟩ := read
    rfl
  | task =>
    simp only [ofRecord?, Option.bind_eq_bind, Option.bind_eq_some_iff, Option.some.injEq] at read
    obtain ⟨_, _, _, _, _, _, _, _, rfl⟩ := read
    rfl
  | step =>
    simp only [ofRecord?, Option.bind_eq_bind, Option.bind_eq_some_iff, Option.some.injEq] at read
    obtain ⟨_, _, _, _, _, _, _, _, _, _, rfl⟩ := read
    rfl

theorem StatusEvent.tagged?_of_ofJson? {j : Json} {e : StatusEvent} (read : ofJson? j = some e) :
    ∃ body, j.tagged? "type" 0 = some (e.level.text, body) := by
  simp only [ofJson?, Option.bind_eq_bind, Option.bind_eq_some_iff] at read
  obtain ⟨⟨variant, body⟩, tagged, l, found, record⟩ := read
  have named : (l.text == variant) = true :=
    List.find?_some (p := fun l : Level => l.text == variant) found
  rw [level_of_ofRecord? record, beq_iff_eq.mp named]
  exact ⟨body, tagged⟩

theorem StatusTarget.tagged?_of_ofJson? {j : Json} {t : StatusTarget} (read : ofJson? j = some t) :
    ∃ body, j.tagged? "entity" 3 = some (t.entity, body) := by
  simp only [ofJson?, Option.bind_eq_bind, Option.bind_eq_some_iff] at read
  obtain ⟨⟨variant, body⟩, tagged, read⟩ := read
  dsimp only at read
  refine ⟨body, ?_⟩
  split at read
  · rename_i mission
    split at read
    · cases read
    · cases read
      rw [tagged, mission, entity]
  · split at read
    · rename_i task
      simp only [Option.bind_eq_some_iff, Option.some.injEq] at read
      obtain ⟨_, _, _, _, _, _, rfl⟩ := read
      rw [tagged, task, entity]
    · split at read
      · rename_i inspection
        simp only [Option.bind_eq_some_iff, Option.some.injEq] at read
        obtain ⟨_, _, _, _, _, _, rfl⟩ := read
        rw [tagged, inspection, entity]
      · cases read

theorem documents_round_trip :
    RoundTrips MissionRun.toJson MissionRun.ofJson? ∧
    RoundTrips StatusEvent.toJson StatusEvent.ofJson? ∧
    RoundTrips Assignment.toJson Assignment.ofJson? ∧
    RoundTrips QueryParameters.toJson QueryParameters.ofJson? ∧
    RoundTrips TransitionReport.toJson TransitionReport.ofJson? ∧
    RoundTrips PageMetadata.toJson PageMetadata.ofJson? ∧
    (∀ j e, StatusEvent.ofJson? j = some e → ∃ body,
      j.tagged? "type" 0 = some (e.level.text, body)) ∧
    ∀ j t, StatusTarget.ofJson? j = some t → ∃ body, j.tagged? "entity" 3 = some (t.entity, body) :=
  ⟨MissionRun.faithful.roundTrips, StatusEvent.faithful.roundTrips, Assignment.faithful.roundTrips,
    QueryParameters.faithful.roundTrips, TransitionReport.faithful.roundTrips,
    PageMetadata.faithful.roundTrips, fun _ _ => StatusEvent.tagged?_of_ofJson?,
    fun _ _ => StatusTarget.tagged?_of_ofJson?⟩

end MissionTracking
