import MissionTracking.Proofs.Listing.Order
import MissionTracking.Proofs.Store.Roster

/-!
The store with an index answers every sequence of calls as the store without one does. The two match
when they hold the same runs under distinct ids and the index of the one agrees with its runs;
whatever the index then says, a scan of all runs says as well.
-/
namespace MissionTracking

structure Matches (s : Store) (t : Roster) : Prop where
  coherent : s.Coherent
  distinct : (t.runs.map MissionRun.id).Nodup
  find? : ∀ id, s.find? id = t.find? id

namespace Matches
variable {s : Store} {t : Roster}

theorem empty : Matches .empty .empty where
  coherent := .empty
  distinct := List.nodup_nil
  find? id := by simp [Store.find?, Store.empty, Roster.find?, Roster.empty]

theorem perm (h : Matches s t) : s.toList.Perm t.runs := by
  have left : s.toList.Nodup := h.coherent.nodup_ids.of_map
  have right : t.runs.Nodup := h.distinct.of_map
  rw [List.perm_ext_iff_of_nodup left right]
  intro r
  rw [h.coherent.mem_toList_iff, h.find?]
  constructor
  · intro found
    exact (Roster.find?_some found).1
  · intro member
    exact Roster.find?_of_mem h.distinct member

theorem index_eq (h : Matches s t) (e : String) :
    s.index[e]? = (t.carrier? e).map MissionRun.id := by
  cases carried : t.carrier? e with
  | none =>
    have absent := List.find?_eq_none.mp carried
    rw [Option.map_none, Option.eq_none_iff_forall_ne_some]
    intro id entry
    obtain ⟨r, found, held⟩ := h.coherent.indexed.mp entry
    rw [h.find?] at found
    exact absent r (Roster.find?_some found).1 (beq_iff_eq.mpr held)
  | some r =>
    obtain ⟨member, held⟩ := Roster.carrier?_some carried
    have found : s.find? r.id = some r := by
      rw [h.find?]
      exact Roster.find?_of_mem h.distinct member
    exact h.coherent.indexed.mpr ⟨r, found, held⟩

theorem resolve?_eq (h : Matches s t) (e : String) :
    s.resolve? e = (t.carrier? e).map fun r => (r.id, r) := by
  unfold Store.resolve?
  rw [h.index_eq]
  cases carried : t.carrier? e with
  | none => rfl
  | some r =>
    have found := Roster.find?_of_mem h.distinct (Roster.carrier?_some carried).1
    simp only [Option.map_some, Option.bind_eq_bind, Option.bind_some, h.find?, found]

theorem isTaken_eq (h : Matches s t) (id : String) : s.isTaken id = t.isTaken id := by
  funext e
  unfold Store.isTaken Roster.isTaken
  rw [h.index_eq, Option.any_map]

theorem replace (h : Matches s t) {next : Store} {id : String} {old r : MissionRun}
    (coherent : next.Coherent) (found : s.find? id = some old) (keyed : r.id = id)
    (lookups : ∀ q, next.find? q = if id = q then some r else s.find? q) :
    Matches next (t.replace id r) where
  coherent := coherent
  distinct := by
    rw [t.ids_replace keyed]
    exact h.distinct
  find? q := by
    rw [lookups, t.find?_replace keyed]
    split
    · rename_i here
      rw [← here, ← h.find?, found, Option.map_some]
    · exact h.find? q

theorem create (h : Matches s t) (r : MissionRun) :
    (∃ e, s.create r = .error e ∧ t.create r = .error e) ∨
      ∃ s' t', s.create r = .ok s' ∧ t.create r = .ok t' ∧ Matches s' t' := by
  have present : r.id ∈ s.runs ↔ (t.find? r.id).isSome = true := by
    rw [Store.mem_iff_find?_isSome, h.find?]
  have taken : (fun e => decide (e ∈ s.index)) = fun e => (t.carrier? e).isSome := by
    funext e
    simp only [Std.ExtTreeMap.mem_iff_isSome_getElem?, h.index_eq, Option.isSome_map,
      Bool.decide_eq_true]
  by_cases used : (t.find? r.id).isSome = true
  · refine .inl ⟨.missionRun (.idInUse r.id), ?_, ?_⟩
    · simp only [Store.create, present, used, if_true]
    · simp only [Roster.create, used, if_true]
  · cases clash : r.externalMissionId.filter fun e => (t.carrier? e).isSome with
    | some e =>
      refine .inl ⟨.missionRun (.externalIdInUse e), ?_, ?_⟩
      · simp only [Store.create, present, used, taken, clash, Bool.false_eq_true, if_false]
      · simp only [Roster.create, used, clash, Bool.false_eq_true, if_false]
    | none =>
      have done : s.create r = .ok ((s.indexRun r).put r.id r) := by
        simp only [Store.create, present, used, taken, clash, Bool.false_eq_true, if_false]
      refine .inr ⟨(s.indexRun r).put r.id r, ⟨r :: t.runs⟩, done, ?_,
        h.coherent.create done, ?_, ?_⟩
      · simp only [Roster.create, used, clash, Bool.false_eq_true, if_false]
      · rw [List.map_cons, List.nodup_cons]
        refine ⟨?_, h.distinct⟩
        intro member
        obtain ⟨q, stored, same⟩ := List.mem_map.mp member
        rw [← same, Roster.find?_of_mem h.distinct stored] at used
        exact used rfl
      · intro q
        rw [Store.find?_create done, Roster.find?_create, h.find?]

theorem delete (h : Matches s t) (id : String) :
    (s.delete id = none ∧ t.delete id = none) ∨
      ∃ s' t' r, s.delete id = some (s', r) ∧ t.delete id = some (t', r) ∧ Matches s' t' := by
  cases found : t.find? id with
  | none =>
    have missing : s.find? id = none := (h.find? id).trans found
    exact .inl ⟨by simp only [Store.delete, missing, Option.map_none],
      by simp only [Roster.delete, found, Option.map_none]⟩
  | some r =>
    have present : s.find? id = some r := (h.find? id).trans found
    have done : s.delete id = some ({ s with runs := s.runs.erase id }.unindexRun r, r) := by
      simp only [Store.delete, present, Option.map_some]
    refine .inr ⟨_, ⟨t.runs.filter fun q => q.id != id⟩, r, done, ?_,
      h.coherent.delete done, ?_, ?_⟩
    · simp only [Roster.delete, found, Option.map_some]
    · exact h.distinct.sublist (List.filter_sublist.map MissionRun.id)
    · intro q
      rw [Store.find?_delete done, Roster.find?_delete, h.find?]

theorem assign (h : Matches s t) (id : String) (a : Assignment) :
    (∃ e, s.assign id a = .error e ∧ t.assign id a = .error e) ∨
      (s.assign id a = .ok none ∧ t.assign id a = .ok none) ∨
      ∃ s' t' r, s.assign id a = .ok (some (s', r)) ∧ t.assign id a = .ok (some (t', r)) ∧
      Matches s' t' := by
  cases found : t.find? id with
  | none =>
    have missing : s.find? id = none := (h.find? id).trans found
    exact .inr (.inl ⟨by simp only [Store.assign, missing], by simp only [Roster.assign, found]⟩)
  | some r =>
    have present : s.find? id = some r := (h.find? id).trans found
    cases applied : a.applied r with
    | error e =>
      exact .inl ⟨e, by simp only [Store.assign, present, applied, bind, Except.bind],
        by simp only [Roster.assign, found, applied, bind, Except.bind]⟩
    | ok changed =>
      cases clash : changed.externalMissionId.filter (t.isTaken id) with
      | some e =>
        refine .inl ⟨.missionRun (.externalIdInUse e), ?_, ?_⟩
        · simp only [Store.assign, present, applied, bind, Except.bind, h.isTaken_eq, clash]
        · simp only [Roster.assign, found, applied, bind, Except.bind, clash]
      | none =>
        have done : s.assign id a = .ok (some ((s.indexRun changed).put id changed, changed)) := by
          simp only [Store.assign, present, applied, bind, Except.bind, h.isTaken_eq, clash]
        have keyed : changed.id = id :=
          (Assignment.applied_keeps applied).id.trans (h.coherent.keyed present)
        refine .inr (.inr ⟨_, t.replace id changed, changed, done, ?_, ?_⟩)
        · simp only [Roster.assign, found, applied, bind, Except.bind, clash]
        · exact h.replace (h.coherent.assign done) present keyed (Store.find?_assign done)

theorem mutate (h : Matches s t) (e : String) (amendment : Amendment α) :
    (s.mutate e amendment.apply = none ∧ t.mutate e amendment.apply = none) ∨
      ∃ s' t' r answer, s.mutate e amendment.apply = some (s', r, answer) ∧
        t.mutate e amendment.apply = some (t', r, answer) ∧ Matches s' t' := by
  cases carried : t.carrier? e with
  | none =>
    have missing : s.resolve? e = none := by rw [h.resolve?_eq, carried, Option.map_none]
    exact .inl ⟨by simp only [Store.mutate, missing, Option.map_none],
      by simp only [Roster.mutate, carried, Option.map_none]⟩
  | some r =>
    have resolved : s.resolve? e = some (r.id, r) := by rw [h.resolve?_eq, carried, Option.map_some]
    cases decided : amendment.apply r with
    | discard answer =>
      refine .inr ⟨s, t, r, answer, ?_, ?_, h⟩
      · simp only [Store.mutate, resolved, Option.map_some, decided]
      · simp only [Roster.mutate, carried, Option.map_some, decided]
    | commit changed answer =>
      have done : s.mutate e amendment.apply =
          some (((s.unindexRun changed).indexRun changed).put r.id changed, changed, answer) := by
        simp only [Store.mutate, resolved, Option.map_some, decided]
      have keyed : changed.id = r.id := (amendment.keeps r changed answer decided).1
      refine .inr ⟨_, t.replace r.id changed, changed, answer, done, ?_, ?_⟩
      · simp only [Roster.mutate, carried, Option.map_some, decided]
      · apply h.replace (h.coherent.mutate amendment.keeps done)
          (Store.resolve?_find resolved) keyed
        intro q
        rw [Store.find?_put, Store.find?_indexRun, Store.find?_unindexRun]

theorem page (h : Matches s t) (q : RunQuery) (window : PageWindow) :
    s.page q window = t.page q window :=
  RunQuery.select_eq_of_perm h.coherent.nodup_ids h.perm window

theorem perform (h : Matches s t) (c : StoreCall α) :
    (s.perform c).2 = (t.perform c).2 ∧ Matches (s.perform c).1 (t.perform c).1 := by
  unfold Store.perform Roster.perform Store.operations Roster.operations StoreOperations.perform
  cases c with
  | create r =>
    rcases h.create r with ⟨e, left, right⟩ | ⟨s', t', left, right, next⟩
    · simp only [left, right]
      exact ⟨trivial, h⟩
    · simp only [left, right]
      exact ⟨trivial, next⟩
  | find id => exact ⟨congrArg StoreAnswer.found (h.find? id), h⟩
  | delete id =>
    rcases h.delete id with ⟨left, right⟩ | ⟨s', t', r, left, right, next⟩
    · simp only [left, right]
      exact ⟨trivial, h⟩
    · simp only [left, right]
      exact ⟨trivial, next⟩
  | assign id a =>
    rcases h.assign id a with ⟨e, left, right⟩ | ⟨left, right⟩ | ⟨s', t', r, left, right, next⟩
    · simp only [left, right]
      exact ⟨trivial, h⟩
    · simp only [left, right]
      exact ⟨trivial, h⟩
    · simp only [left, right]
      exact ⟨trivial, next⟩
  | mutate e amendment =>
    rcases h.mutate e amendment with ⟨left, right⟩ | ⟨s', t', r, answer, left, right, next⟩
    · simp only [left, right]
      exact ⟨trivial, h⟩
    · simp only [left, right]
      exact ⟨trivial, next⟩
  | page q window => exact ⟨congrArg StoreAnswer.page (h.page q window), h⟩

theorem calls (h : Matches s t) (cs : List (StoreCall α)) :
    (steps Store.perform s cs).2 = (steps Roster.perform t cs).2 ∧
      Matches (steps Store.perform s cs).1 (steps Roster.perform t cs).1 :=
  steps_simulation (fun _ _ c matched => matched.perform c) h cs

end Matches

/-- Calls from the empty store are answered as the store without an index answers them. In the store
that they lead to, the index names the one run that carries each external mission id and has no
other entry, no id and no external mission id is shared, a deletion frees the external id, and an
external id that is assigned leads to its run until the run is deleted. -/
theorem Store.answers_eq_roster (calls : List (StoreCall α)) :
    ∃ s answers, steps Store.perform .empty calls = (s, answers) ∧
      (steps Roster.perform .empty calls).2 = answers ∧
      (steps Roster.perform .empty calls).1.runs.Perm s.toList ∧
      (∀ e id, s.index[e]? = some id ↔ ∃ r, s.find? id = some r ∧ r.externalMissionId = some e) ∧
      (s.toList.map MissionRun.id).Nodup ∧
      (s.toList.filterMap MissionRun.externalMissionId).Nodup ∧
      (∀ id r next e, s.delete id = some (next, r) → r.externalMissionId = some e →
        next.index[e]? = none ∧
          ∀ fresh : MissionRun, fresh.externalMissionId = some e → next.find? fresh.id = none →
            ∃ last, next.create fresh = .ok last) ∧
      ∀ id a r next e, s.assign id a = .ok (some (next, r)) → r.externalMissionId = some e →
        ∀ later : List (StoreCall α), (∀ c ∈ later, c ≠ .delete id) →
          ∃ run, (steps Store.perform next later).1.resolve? e = some (id, run) := by
  obtain ⟨answers, matched⟩ := Matches.empty.calls calls
  have coherent := matched.coherent
  refine ⟨_, _, rfl, answers.symm, matched.perm.symm, ?_, coherent.nodup_ids,
    coherent.nodup_externalMissionIds, ?_, ?_⟩
  · intro e id
    exact coherent.indexed
  · intro id r next e done held
    exact Store.freed_of_delete done held
  · intro id a r next e done held later others
    have carried : next.Carries id e := ⟨r, by rw [Store.find?_assign done, if_pos rfl], held⟩
    exact carried.calls (coherent.assign done) others

end MissionTracking
