-- What its cache is to a store. A read goes by the cache where it is filled, and by the
-- text where it is not. A write goes by the text alone. So a store whose cache is empty,
-- or holds what the text reads as, does with every command what a store does that has
-- read nothing yet.
import MomentInsights.Proofs.DamagedText

namespace MomentInsights.Cooldown

/-! ## Kinds of commands -/

namespace Command

def isRead : Command → Bool
  | .records => true
  | .cooldownEnd _ _ => true
  | .isOnCooldown _ _ _ => true
  | .active _ => true
  | _ => false

/-- The command reads the records, changes them and saves them. -/
def isSave : Command → Bool
  | .recordShown _ _ _ => true
  | .recordMany _ _ => true
  | .clearChild _ => true
  | _ => false

/-- What a read answers that goes by the records. -/
def answerBy (p : Periods) (rs : List Record) : Command → Except Failure Answer
  | .records => .ok (.records rs)
  | .cooldownEnd templateId childId =>
    .ok (.ends ((Store.find? rs templateId childId).map p.endOf))
  | .isOnCooldown templateId childId now =>
    ((Store.find? rs templateId childId).map p.endOf).elim (.ok (.rests false)) fun ends =>
      now.utc.map fun now => .rests (now < ends)
  | .active now => .ok (.active (Store.activeOf p rs now))
  | _ => .ok .done

end Command

/-- What a write of displays saves over the text. A time whose rest has no end is not
recorded. -/
def recording (p : Periods) (room : Room) (text : Option String) (pairs : List (String × String))
    (time : Instant) : Except Failure (Option (List Record)) :=
  if p.hasEnd time then (decode p room text >>= (Store.recorded p · pairs time)).map some
  else .ok none

/-- What the command saves over the text, if it saves anything. -/
def Command.saved (p : Periods) (room : Room) (text : Option String) :
    Command → Except Failure (Option (List Record))
  | .recordShown templateId childId time => recording p room text [(templateId, childId)] time
  | .recordMany pairs time => recording p room text pairs time
  | .clearChild childId =>
    (decode p room text).map fun rs => some (rs.filter (·.childId != .ofString childId))
  | _ => .ok none

namespace Store

variable {s s' : Store} {c : Command} {rs : List Record}

/-! ## Reads -/

/-- The records that a read goes by. -/
def held (s : Store) : Except Failure (List Record) :=
  s.cache.elim (decode s.periods s.room s.text) .ok

theorem records_eq (s : Store) :
    s.records = s.held.map fun rs => (rs, { s with cache := some rs }) := by
  obtain ⟨p, room, seeds, text, cache⟩ := s
  unfold records held
  cases cache with
  | some rs => rfl
  | none =>
    dsimp only [Option.elim]
    cases decode p room text <;> rfl

/-- A store that cannot be read has nothing in its cache. -/
theorem cache_of_held_error {f : Failure} (h : s.held = .error f) : s.cache = none := by
  unfold held at h
  cases hcache : s.cache with
  | none => rfl
  | some rs =>
    rw [hcache] at h
    cases h

/-- A read goes by the held records, and leaves them in the cache. -/
theorem perform_read (s : Store) (hc : c.isRead = true) :
    s.perform c = (s.held >>= (c.answerBy s.periods ·), { s with cache := s.held.toOption }) := by
  have hrecords := records_eq s
  cases hheld : s.held with
  | error f =>
    have hsame : ({ s with cache := none } : Store) = s := by rw [← cache_of_held_error hheld]
    rw [hheld] at hrecords
    cases c with
    | records => simp [perform, hrecords, Except.map, answered, Except.toOption, hsame]
    | cooldownEnd templateId childId =>
      simp [perform, cooldownEnd, hrecords, Except.map, answered, Except.toOption, hsame]
    | isOnCooldown templateId childId now =>
      simp [perform, isOnCooldown, cooldownEnd, hrecords, Except.map, Except.toOption, hsame]
    | active now => simp [perform, active, hrecords, Except.map, answered, Except.toOption, hsame]
    | _ => cases hc
  | ok rs =>
    rw [hheld] at hrecords
    replace hrecords : s.records = .ok (rs, { s with cache := some rs }) := hrecords
    cases c with
    | records => simp [perform, hrecords, answered, Command.answerBy, Except.toOption]
    | cooldownEnd templateId childId =>
      simp [perform, cooldownEnd_of_records hrecords, answered, Command.answerBy, Except.toOption]
    | isOnCooldown templateId childId now =>
      simp only [perform, isOnCooldown, cooldownEnd_of_records hrecords, Command.answerBy,
        Outcome.ok_bind, Except.toOption]
      cases (find? rs templateId childId).map s.periods.endOf with
      | none => rfl
      | some ends =>
        dsimp only [Option.elim]
        cases now.utc <;> rfl
    | active now =>
      simp [perform, active_of_records hrecords, answered, Command.answerBy, Except.toOption]
    | _ => cases hc

/-- A read changes the cache alone. -/
theorem perform_read_invalidate (s : Store) (hc : c.isRead = true) :
    (s.perform c).2.invalidate = s.invalidate := by
  rw [perform_read s hc]
  rfl

/-! ## Writes -/

/-- The store after a command that was to save the records. -/
def afterSave (s : Store) : Except Failure (Option (List Record)) → Store
  | .ok (some rs) => s.save rs
  | .ok none => s
  | .error _ => s.locked

theorem recordMany_eq (s : Store) (pairs : List (String × String)) (time : Instant) :
    s.recordMany pairs time = ((recording s.periods s.room s.text pairs time).map fun _ => (),
      s.afterSave (recording s.periods s.room s.text pairs time)) := by
  unfold recordMany recording
  cases s.periods.hasEnd time with
  | false => rfl
  | true =>
    simp only [Bool.not_true, Bool.false_eq_true, if_false, if_true]
    rw [decode_locked, locked_periods]
    cases decode s.periods s.room s.text >>= (recorded s.periods · pairs time) with
    | error f => rfl
    | ok rs =>
      simp only [Except.map, afterSave, locked_save]

/-- What a save does depends on the text that it finds. -/
theorem perform_save (s : Store) (hc : c.isSave = true) :
    s.perform c = ((c.saved s.periods s.room s.text).map fun _ => .done,
      s.afterSave (c.saved s.periods s.room s.text)) := by
  have hmap (x : Except Failure (Option (List Record))) :
      ((x.map fun _ => ()).map fun _ => Answer.done) = x.map fun _ => .done := by
    cases x <;> rfl
  cases c with
  | recordShown templateId childId time =>
    simp only [perform, recordShown, recordMany_eq, Command.saved, hmap]
  | recordMany pairs time => simp only [perform, recordMany_eq, Command.saved, hmap]
  | clearChild childId =>
    simp only [perform, clearChild_eq, Command.saved]
    cases hdecode : decode s.periods s.room s.text with
    | ok rs => rfl
    | error f =>
      -- A text that cannot be read is there, so nothing was put in its place.
      have htext : s.text ≠ none := by
        intro hnone
        rw [hnone, decode_none] at hdecode
        cases hdecode
      simp [Except.map, answered, afterSave, locked, htext]
  | _ => cases hc

theorem locked_room (s : Store) : s.locked.room = s.room := by
  unfold locked
  split <;> rfl

theorem locked_cache (s : Store) : s.locked.cache = s.cache := by
  unfold locked
  split <;> rfl

theorem locked_invalidate (s : Store) : s.invalidate.locked = s.locked.invalidate := by
  unfold locked invalidate
  dsimp only
  split <;> rfl

theorem afterSave_invalidate (s : Store) (saved : Except Failure (Option (List Record))) :
    (s.invalidate.afterSave saved).invalidate = (s.afterSave saved).invalidate := by
  rcases saved with f | (_ | rs)
  · change s.invalidate.locked.invalidate = s.locked.invalidate
    rw [locked_invalidate]
    rfl
  · rfl
  · rfl

/-- What a command does to the text does not depend on the cache, and neither does the
answer of a command that is no read. -/
theorem perform_invalidate (s : Store) (c : Command) :
    (s.invalidate.perform c).2.invalidate = (s.perform c).2.invalidate ∧
      (c.isRead = false → (s.invalidate.perform c).1 = (s.perform c).1) := by
  by_cases hread : c.isRead = true
  · refine ⟨?_, by simp [hread]⟩
    rw [perform_read_invalidate _ hread, perform_read_invalidate _ hread]
    rfl
  · by_cases hsave : c.isSave = true
    · rw [perform_save _ hsave, perform_save _ hsave]
      exact ⟨afterSave_invalidate s _, fun _ => rfl⟩
    · cases c with
      | clearAll => exact ⟨rfl, fun _ => rfl⟩
      | invalidate => exact ⟨rfl, fun _ => rfl⟩
      | _ => simp [Command.isRead, Command.isSave] at hread hsave

theorem mem_of_recorded {p : Periods} {rs' : List Record} {pairs : List (String × String)}
    {time : Instant} (h : recorded p rs pairs time = .ok rs') {r : Record} (hr : r ∈ rs') :
    r ∈ rs ∨ ∃ pair ∈ pairs, r = .ofPair pair time := by
  unfold recorded at h
  obtain ⟨back, -, h⟩ := Outcome.bind_eq_ok.mp h
  cases h
  exact mem_of_mem_replaced hr

theorem decode_recording {p : Periods} {room : Room} {text : Option String}
    {pairs : List (String × String)} {time : Instant}
    (h : recording p room text pairs time = .ok (some rs)) :
    decode p room (some (encode rs)) = .ok rs := by
  unfold recording at h
  split at h
  · rename_i hend
    cases hsaved : decode p room text >>= (recorded p · pairs time) with
    | error f =>
      rw [hsaved] at h
      cases h
    | ok rs' =>
      rw [hsaved] at h
      cases h
      obtain ⟨found, hfound, hrecorded⟩ := Outcome.bind_eq_ok.mp hsaved
      refine decode_encode (fun r hr => ?_) room
      rcases mem_of_recorded hrecorded hr with hold | ⟨pair, -, rfl⟩
      · exact readsBack_of_decode hfound r hold
      · exact readsBack_ofPair hend pair
  · cases h

theorem decode_saved {p : Periods} {room : Room} {text : Option String}
    (h : c.saved p room text = .ok (some rs)) : decode p room (some (encode rs)) = .ok rs := by
  cases c with
  | recordShown templateId childId time => exact decode_recording h
  | recordMany pairs time => exact decode_recording h
  | clearChild childId =>
    unfold Command.saved at h
    cases hdecode : decode p room text with
    | error f =>
      rw [hdecode] at h
      cases h
    | ok found =>
      rw [hdecode] at h
      cases h
      refine decode_encode (fun r hr => ?_) room
      exact readsBack_of_decode hdecode r (List.mem_of_mem_filter hr)
  | _ => cases h

/-! ## A cache that holds what the text reads as -/

/-- The cache is empty, or holds what the text reads as. -/
def Coherent (s : Store) : Prop := ∀ rs, s.cache = some rs → decode s.periods s.room s.text = .ok rs

theorem coherent_of_empty (h : s.cache = none) : s.Coherent := by
  intro rs hrs
  rw [h] at hrs
  cases hrs

theorem Coherent.held_eq (h : s.Coherent) : s.held = decode s.periods s.room s.text := by
  unfold held
  cases hcache : s.cache with
  | none => rfl
  | some rs => exact (h rs hcache).symm

theorem Coherent.locked (h : s.Coherent) : s.locked.Coherent := by
  intro rs hrs
  rw [locked_cache] at hrs
  rw [decode_locked]
  exact h rs hrs

/-- Every command leaves in the cache what the text reads as, or nothing. -/
theorem Coherent.perform (h : s.Coherent) (c : Command) : (s.perform c).2.Coherent := by
  by_cases hread : c.isRead = true
  · rw [perform_read s hread, h.held_eq]
    intro rs hrs
    change decode s.periods s.room s.text = .ok rs
    cases hdecode : decode s.periods s.room s.text with
    | error f => simp [hdecode, Except.toOption] at hrs
    | ok found =>
      simp only [hdecode, Except.toOption, Option.some.injEq] at hrs
      rw [hrs]
  · by_cases hsave : c.isSave = true
    · rw [perform_save s hsave]
      cases hsaved : c.saved s.periods s.room s.text with
      | error f => exact h.locked
      | ok saved? =>
        cases saved? with
        | none => exact h
        | some saved =>
          rintro rs ⟨⟩
          exact decode_saved hsaved
    · cases c with
      | clearAll => exact coherent_of_empty rfl
      | invalidate => exact coherent_of_empty rfl
      | _ => simp [Command.isRead, Command.isSave] at hread hsave

/-- The answer is that of a store which has read nothing yet. -/
theorem Coherent.answer (h : s.Coherent) (c : Command) :
    (s.perform c).1 = (s.invalidate.perform c).1 := by
  by_cases hread : c.isRead = true
  · rw [perform_read _ hread, perform_read _ hread, h.held_eq]
    rfl
  · exact ((perform_invalidate s c).2 (by simpa using hread)).symm

end Store

end MomentInsights.Cooldown
