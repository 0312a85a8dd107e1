-- Several stores over one text, each with a cache of its own. Every write reads the text
-- anew, so none of them loses what another one wrote, however old its cache is. What a store
-- reads is the text as it last saw it: where it loaded it, or where it saved its own.
import MomentInsights.Proofs.CachedReads

namespace MomentInsights.Cooldown

/-! ## Commands that write -/

/-- The rests of what the command displays have an end. -/
def Command.hasEnd (p : Periods) : Command → Bool
  | .recordShown _ _ time => p.hasEnd time
  | .recordMany _ time => p.hasEnd time
  | _ => true

/-- A save ends in one of three ways: it fails, it leaves out a time that has no end, or it
writes the records. -/
theorem saved_cases (p : Periods) (room : Room) (text : Option String) {c : Command}
    (hc : c.isSave = true) :
    (∃ f, c.saved p room text = .error f) ∨
      (c.hasEnd p = false ∧ c.saved p room text = .ok none) ∨
        (c.hasEnd p = true ∧ ∃ rs, c.saved p room text = .ok (some rs)) := by
  have hrecording (pairs : List (String × String)) (time : Instant) :
      (∃ f, recording p room text pairs time = .error f) ∨
        (p.hasEnd time = false ∧ recording p room text pairs time = .ok none) ∨
          (p.hasEnd time = true ∧ ∃ rs, recording p room text pairs time = .ok (some rs)) := by
    unfold recording
    cases p.hasEnd time with
    | false => exact Or.inr (Or.inl ⟨rfl, rfl⟩)
    | true =>
      cases decode p room text >>= (Store.recorded p · pairs time) with
      | error f => exact Or.inl ⟨f, rfl⟩
      | ok rs => exact Or.inr (Or.inr ⟨rfl, rs, rfl⟩)
  cases c with
  | recordShown templateId childId time => exact hrecording [(templateId, childId)] time
  | recordMany pairs time => exact hrecording pairs time
  | clearChild childId =>
    unfold Command.saved
    cases decode p room text with
    | error f => exact Or.inl ⟨f, rfl⟩
    | ok rs => exact Or.inr (Or.inr ⟨rfl, _, rfl⟩)
  | _ => cases hc

/-- The text, if it can be read. -/
def legible (p : Periods) (room : Room) (text : Option String) : Option (Option String) :=
  (decode p room text).toOption.map fun _ => text

/-- The cache is what the seen text reads as, and empty where none was seen. -/
def Store.Remembers (s : Store) (sight : Option (Option String)) : Prop :=
  s.cache.map Except.ok = sight.map (decode s.periods s.room)

namespace Store

variable {s : Store} {sight : Option (Option String)} {c : Command}

theorem remembers_cases (h : s.Remembers sight) :
    (s.cache = none ∧ sight = none) ∨
      ∃ rs text, s.cache = some rs ∧ sight = some text ∧ decode s.periods s.room text = .ok rs := by
  unfold Remembers at h
  cases hcache : s.cache with
  | none =>
    rw [hcache] at h
    exact Or.inl ⟨rfl, Option.map_eq_none_iff.mp h.symm⟩
  | some rs =>
    rw [hcache] at h
    obtain ⟨text, htext, hdecode⟩ := Option.map_eq_some_iff.mp h.symm
    exact Or.inr ⟨rs, text, rfl, htext, hdecode⟩

/-- A read goes by the seen text, or else by the present one. -/
theorem Remembers.held (h : s.Remembers sight) :
    s.held = decode s.periods s.room (sight.getD s.text) := by
  unfold Store.held
  rcases remembers_cases h with ⟨hcache, rfl⟩ | ⟨rs, text, hcache, rfl, hdecode⟩
  · rw [hcache]
    rfl
  · rw [hcache]
    exact hdecode.symm

theorem Remembers.read (h : s.Remembers sight) (hc : c.isRead = true) :
    (s.perform c).2.Remembers (sight.or (legible s.periods s.room s.text)) := by
  rw [perform_read s hc, h.held]
  unfold Remembers legible
  rcases remembers_cases h with ⟨-, rfl⟩ | ⟨rs, text, -, rfl, hdecode⟩
  · dsimp only [Option.or, Option.getD]
    cases hdecode : decode s.periods s.room s.text with
    | error f => rfl
    | ok rs => exact congrArg some hdecode.symm
  · dsimp only [Option.or, Option.getD]
    rw [hdecode]
    exact congrArg some hdecode.symm

/-- A save that writes the records has seen the text that it leaves. -/
theorem Remembers.save (h : s.Remembers sight) (hc : c.isSave = true) :
    (s.perform c).2.Remembers
      (if c.hasEnd s.periods && (s.perform c).1.isOk then some (s.perform c).2.text
      else sight) := by
  rw [perform_save s hc]
  rcases saved_cases s.periods s.room s.text hc with ⟨f, hsaved⟩ | ⟨hend, hsaved⟩ | ⟨hend, rs, hsaved⟩
  · have hfailed : (Except.map (fun _ : Option (List Record) => Answer.done)
        (.error f : Except Failure (Option (List Record)))).isOk = false := rfl
    rw [hsaved, hfailed, Bool.and_false]
    unfold Remembers at h ⊢
    change s.locked.cache.map Except.ok = sight.map (decode s.locked.periods s.locked.room)
    rw [locked_cache, locked_periods, locked_room]
    exact h
  · rw [hsaved, hend]
    exact h
  · rw [hsaved, hend]
    exact congrArg some (decode_saved hsaved).symm

end Store

/-! ## The stores -/

/-- Stores over one text. -/
structure Shared (ι : Type) where
  periods : Periods
  room : Room
  seeds : Bool
  text : Option String
  caches : ι → Option (List Record)

/-- A command that a store performed, between two texts. -/
structure Entry (ι : Type) where
  store : ι
  command : Command
  before : Option String
  after : Option String
  answer : Except Failure Answer

variable {ι : Type}

namespace Shared

/-- One of the stores. -/
def store (sh : Shared ι) (i : ι) : Store where
  periods := sh.periods
  room := sh.room
  seeds := sh.seeds
  text := sh.text
  cache := sh.caches i

end Shared

variable [DecidableEq ι]

/-- The text that the store has seen last, after the command. A read sees the text if the
store had seen none, and a save sees the text that it leaves. A store that clears everything
or forgets its cache has seen none, so its next read loads the text anew. -/
def Entry.seen (p : Periods) (room : Room) (i : ι) (sight : Option (Option String))
    (e : Entry ι) : Option (Option String) :=
  if e.store = i then
    if e.command.isRead then sight.or (legible p room e.before)
    else if e.command.isSave then
      (if e.command.hasEnd p && e.answer.isOk then some e.after else sight)
    else none
  else sight

namespace Entry

variable {p : Periods} {room : Room} {i : ι} {sight : Option (Option String)} {e : Entry ι}

end Entry

namespace Shared

/-- One store performs a command, and the others keep their caches. -/
def perform (sh : Shared ι) (op : ι × Command) : Except Failure Answer × Shared ι :=
  let (answer, s) := (sh.store op.1).perform op.2
  (answer, { sh with text := s.text, caches := Function.update sh.caches op.1 s.cache })

def after (sh : Shared ι) (ops : List (ι × Command)) : Shared ι :=
  ops.foldl (fun sh op => (sh.perform op).2) sh

/-- The command as it is performed. -/
def entry (sh : Shared ι) (op : ι × Command) : Entry ι :=
  ⟨op.1, op.2, sh.text, (sh.perform op).2.text, (sh.perform op).1⟩

/-- The commands of a run as they are performed. -/
def log (sh : Shared ι) : List (ι × Command) → List (Entry ι)
  | [] => []
  | op :: ops => sh.entry op :: log (sh.perform op).2 ops

/-- The text that the store has seen last in a run. -/
def sight (sh : Shared ι) (i : ι) (ops : List (ι × Command)) : Option (Option String) :=
  (sh.log ops).foldl (Entry.seen sh.periods sh.room i) none

variable {sh : Shared ι} {s : Store}

/-! ## Runs -/

end Shared

end MomentInsights.Cooldown
