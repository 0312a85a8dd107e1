-- What a checked form promises. A form is accepted when each of its fields is, so that
-- every accepted field lies within the bounds of its check.
import MomentInsights.Proofs.CooldownHistory
import MomentInsights.Service.Server

namespace MomentInsights.Service

/-! ## Accepted parts -/

namespace Checked

variable {α β : Type}

theorem map_eq_good {f : α → β} {x : Checked α} {b : β} :
    (f <$> x) = .good b ↔ ∃ a, x = .good a ∧ f a = b := by
  change x.map f = .good b ↔ _
  cases x <;> simp [map]

theorem seq_eq_good {f : Checked (α → β)} {x : Checked α} {b : β} :
    (f <*> x) = .good b ↔ ∃ g, f = .good g ∧ ∃ a, x = .good a ∧ g a = b := by
  change f.seq x = .good b ↔ _
  cases f <;> cases x <;> simp [seq]

theorem ofField_eq_good {field : String} {x : Except Fault α} {a : α} :
    ofField field x = .good a ↔ x = .ok a := by
  cases x <;> simp [ofField]

theorem exists_of_mem_all {xs : List (Checked α)} {as : List α} (h : all xs = .good as) {a : α}
    (ha : a ∈ as) : .good a ∈ xs := by
  induction xs generalizing as with
  | nil =>
    cases h
    cases ha
  | cons x xs ih =>
    unfold all at h
    obtain ⟨g, hg, rest, hrest, rfl⟩ := seq_eq_good.mp h
    obtain ⟨first, rfl, rfl⟩ := map_eq_good.mp hg
    rcases List.mem_cons.mp ha with rfl | ha
    · exact List.mem_cons_self
    · exact List.mem_cons_of_mem _ (ih hrest ha)

/-- An accepted item of a list was accepted at some place. -/
theorem exists_of_mem_items {field : String} {check : String → Json → Checked α} {xs : List Json}
    {as : List α} (h : items field check xs = .good as) {a : α} (ha : a ∈ as) :
    ∃ place x, check place x = .good a := by
  obtain ⟨⟨x, i⟩, -, hx⟩ := List.mem_map.mp (exists_of_mem_all h ha)
  exact ⟨_, x, hx⟩

end Checked

variable {α : Type} {place name : String} {j : Json}

theorem required_eq_good {check : Json → Except Fault α} {a : α}
    (h : required place j name check = .good a) : ∃ v, check v = .ok a := by
  have hfield := Checked.ofField_eq_good.mp h
  split at hfield
  · exact ⟨_, hfield⟩
  · cases hfield

theorem nullable_eq_good {check : Json → Except Fault α} {a : α}
    (h : nullable place j name check = .good (some a)) : ∃ v, check v = .ok a := by
  have hfield := Checked.ofField_eq_good.mp h
  split at hfield
  · rename_i v _
    cases v with
    | null => cases hfield
    | _ =>
      unfold orNull at hfield
      obtain ⟨b, hb, heq⟩ := Outcome.bind_eq_ok.mp hfield
      cases heq
      exact ⟨_, hb⟩
  · cases hfield

theorem object_eq_good {check : Json → Checked α} {a : α} (h : object place check j = .good a) :
    check j = .good a := by
  unfold object at h
  split at h
  · exact h
  · cases h

/-- An accepted body was read and checked. -/
theorem Request.form_eq_ok {q : Request} {depth : Nat} {check : Json → Checked α} {a : α}
    (h : q.form depth check = .ok a) : ∃ j, check j = .good a := by
  unfold Request.form at h
  obtain ⟨body, -, h⟩ := Outcome.bind_eq_ok.mp h
  split at h
  · cases h
  · split at h
    · rename_i hcheck
      cases h
      exact ⟨_, hcheck⟩
    · cases h

/-! ## Rewards -/

theorem Field.wholeAbove_bounds {low high n : Int} (h : wholeAbove low high j = .ok n) :
    low < n ∧ n ≤ high := by
  unfold wholeAbove at h
  obtain ⟨m, -, h⟩ := Outcome.bind_eq_ok.mp h
  by_cases habove : high < m
  · rw [if_pos habove] at h
    cases h
  · by_cases hbelow : m ≤ low
    · rw [if_neg habove, if_pos hbelow] at h
      cases h
    · rw [if_neg habove, if_neg hbelow] at h
      cases h
      omega

/-- An accepted reward has points to earn, and not too many. -/
theorem RewardForm.check_target {f : RewardForm} (h : RewardForm.check j = .good f) :
    0 < f.targetPoints ∧ f.targetPoints ≤ 100000 := by
  have hfields := object_eq_good h
  obtain ⟨upToFrozen, h₈, active, -, rfl⟩ := Checked.seq_eq_good.mp hfields
  obtain ⟨upToExpired, h₇, frozen, -, rfl⟩ := Checked.seq_eq_good.mp h₈
  obtain ⟨upToRedeemed, h₆, expired, -, rfl⟩ := Checked.seq_eq_good.mp h₇
  obtain ⟨upToDue, h₅, redeemed, -, rfl⟩ := Checked.seq_eq_good.mp h₆
  obtain ⟨upToStart, h₄, due, -, rfl⟩ := Checked.seq_eq_good.mp h₅
  obtain ⟨upToTarget, h₃, start, -, rfl⟩ := Checked.seq_eq_good.mp h₄
  obtain ⟨upToName, h₂, target, htarget, rfl⟩ := Checked.seq_eq_good.mp h₃
  obtain ⟨upToChild, h₁, name, -, rfl⟩ := Checked.seq_eq_good.mp h₂
  obtain ⟨upToId, h₀, childId, -, rfl⟩ := Checked.seq_eq_good.mp h₁
  obtain ⟨id, -, rfl⟩ := Checked.map_eq_good.mp h₀
  obtain ⟨v, hv⟩ := required_eq_good htarget
  exact Field.wholeAbove_bounds hv

/-! ## Times on screen -/

end Service

open Binary64 (one signedSteps)

/-- The number of seconds is that of at most a day. A zero may have a sign. -/
def Binary64.WithinDay (x : Binary64) : Prop :=
  ∃ negative steps, x = .finite negative steps ∧ signedSteps negative steps = steps ∧
    steps ≤ 86400 * one

theorem Binary64.ofInt_day : ofInt 86400 = .finite false (86400 * one) := by
  decide +kernel

theorem Binary64.withinDay_of_bounds {x : Binary64} (hfinite : x.isFinite = true)
    (hlow : ¬ x.lt (ofInt 0) = true) (hhigh : ¬ (ofInt 86400).lt x = true) : x.WithinDay := by
  have hzero : ofInt 0 = .finite false 0 := by decide +kernel
  rw [hzero] at hlow
  rw [ofInt_day] at hhigh
  cases x with
  | finite negative steps =>
    have hlow : 0 ≤ signedSteps negative steps := by
      rw [← Int.not_lt]
      intro h
      exact hlow (decide_eq_true h)
    have hhigh : signedSteps negative steps ≤ (86400 * one : Nat) := by
      rw [← Int.not_lt]
      intro h
      exact hhigh (decide_eq_true h)
    refine ⟨negative, steps, rfl, ?_⟩
    cases negative with
    | false =>
      rw [signedSteps_false] at hhigh
      exact ⟨rfl, Int.ofNat_le.mp hhigh⟩
    | true =>
      -- only zero has a sign
      rw [signedSteps_true] at hlow ⊢
      omega
  | infinite => cases hfinite
  | nan => cases hfinite

namespace Service

theorem Field.realWithin_day {j : Json} {x : Binary64} (h : realWithin 0 86400 j = .ok x) :
    x.WithinDay := by
  unfold realWithin at h
  obtain ⟨y, -, h⟩ := Outcome.bind_eq_ok.mp h
  by_cases hfinite : y.isFinite = true
  · by_cases hhigh : (Binary64.ofInt 86400).lt y = true
    · simp only [hfinite, hhigh, Bool.not_true, Bool.false_eq_true, if_false, if_true] at h
      cases h
    · by_cases hlow : y.lt (Binary64.ofInt 0) = true
      · simp only [hfinite, hhigh, hlow, Bool.not_true, Bool.false_eq_true, if_false, if_true] at h
        cases h
      · simp only [hfinite, hhigh, hlow, Bool.not_true, Bool.false_eq_true, if_false] at h
        cases h
        exact Binary64.withinDay_of_bounds hfinite hlow hhigh
  · simp only [hfinite, Bool.not_false, if_true] at h
    cases h

/-- The cards of an accepted report were on screen for at most a day. -/
theorem DisplayedCard.check_day {place : String} {j : Json} {d : DisplayedCard}
    (h : DisplayedCard.check place j = .good d) {x : Binary64} (hx : d.visibleSeconds = some x) :
    x.WithinDay := by
  have hfields := object_eq_good h
  obtain ⟨upToVisible, h₃, interacted, -, rfl⟩ := Checked.seq_eq_good.mp hfields
  obtain ⟨upToTemplate, h₂, visible, hvisible, rfl⟩ := Checked.seq_eq_good.mp h₃
  obtain ⟨upToId, h₁, template, -, rfl⟩ := Checked.seq_eq_good.mp h₂
  obtain ⟨id, -, rfl⟩ := Checked.map_eq_good.mp h₁
  have hx : visible = some x := hx
  subst hx
  obtain ⟨v, hv⟩ := nullable_eq_good hvisible
  exact Field.realWithin_day hv

theorem Field.supportedTime_eq_ok {j : Json} {t : Instant} (h : supportedTime j = .ok t) :
    t.Supported := by
  unfold supportedTime at h
  obtain ⟨time, -, h⟩ := Outcome.bind_eq_ok.mp h
  split at h
  · rename_i u hu
    cases h
    exact (Engine.supported_spec hu).2
  · cases h

/-- An accepted report of displays. -/
theorem DisplayedForm.check_eq_good {j : Json} {f : DisplayedForm}
    (h : DisplayedForm.check j = .good f) :
    (∀ d ∈ f.cards, ∀ x, d.visibleSeconds = some x → x.WithinDay) ∧
      ∀ t, f.time = some t → t.Supported := by
  have hfields := object_eq_good h
  obtain ⟨upToCards, h₁, time, htime, rfl⟩ := Checked.seq_eq_good.mp hfields
  obtain ⟨cards, hcards, rfl⟩ := Checked.map_eq_good.mp h₁
  constructor
  · intro d hd x hx
    unfold checkCards at hcards
    split at hcards
    · cases hcards
    · split at hcards
      · cases hcards
      · split at hcards
        · cases hcards
        · obtain ⟨place, item, hitem⟩ := Checked.exists_of_mem_items hcards hd
          exact DisplayedCard.check_day hitem hx
    · cases hcards
  · rintro t rfl
    obtain ⟨v, hv⟩ := nullable_eq_good htime
    exact Field.supportedTime_eq_ok hv

end Service

end MomentInsights
