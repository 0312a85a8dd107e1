-- What one request may do to the stored records. Most leave them as they are; each of
-- the others stores a record, moments of a batch, or the displays of a child. The replies
-- that show a record can always be encoded.
import MomentInsights.Proofs.Outcome
import MomentInsights.Service.Server

namespace MomentInsights

/-! ## Values that can be encoded -/

namespace Json

attribute [simp] isEncodable allEncodable membersEncodable

theorem allEncodable_iff {xs : List Json} :
    allEncodable xs = true ↔ ∀ x ∈ xs, x.isEncodable = true := by
  induction xs with
  | nil => simp
  | cons x xs ih => simp [ih]

theorem isEncodable_ofOption {α : Type} {f : α → Json} (h : ∀ a, (f a).isEncodable = true)
    (o : Option α) : (ofOption f o).isEncodable = true := by
  cases o with
  | none => rfl
  | some a => exact h a

end Json

namespace Service

@[simp] theorem isEncodable_textOrNull (o : Option String) : (textOrNull o).isEncodable = true :=
  Json.isEncodable_ofOption (fun _ => rfl) o

@[simp] theorem isEncodable_wholeOrNull (o : Option Int) : (wholeOrNull o).isEncodable = true :=
  Json.isEncodable_ofOption (fun _ => rfl) o

@[simp] theorem isEncodable_timeOrNull (o : Option Instant) :
    (Json.ofOption storedTime o).isEncodable = true :=
  Json.isEncodable_ofOption (fun _ => rfl) o

theorem isEncodable_child (c : Child) : (childJson c).isEncodable = true := by
  simp [childJson]

theorem isEncodable_behavior (b : Behavior) : (behaviorJson b).isEncodable = true := by
  simp [behaviorJson, Json.whole]

theorem isEncodable_reward (r : Reward) : (rewardJson r).isEncodable = true := by
  simp [rewardJson, Json.whole]

theorem isEncodable_moment (m : Moment) : (momentJson m).isEncodable = true := by
  simp [momentJson, storedTime, Json.whole]

theorem isEncodable_logged (l : Logged) (i : Nat) :
    (Server.loggedJson (l, i)).isEncodable = true := by
  cases l with
  | stored m =>
    simp [Server.loggedJson, isEncodable_moment, Json.nat, Json.whole]
  | refused r =>
    simp [Server.loggedJson, Json.nat, Json.whole]

theorem allEncodable_logged (logged : List Logged) :
    Json.allEncodable (logged.zipIdx.map Server.loggedJson) = true := by
  rw [Json.allEncodable_iff]
  intro j hj
  obtain ⟨⟨l, i⟩, -, rfl⟩ := List.mem_map.mp hj
  exact isEncodable_logged l i

/-! ## Replies -/

theorem encoded_json {status : Nat} {j : Json} (h : j.isEncodable = true) :
    (Reply.json status j).encoded = .json status j :=
  if_pos h

theorem encoded_batchReply (logged : List Logged) :
    (Server.batchReply logged).encoded = Server.batchReply logged := by
  apply encoded_json
  simp [Json.nat, Json.whole, allEncodable_logged]

/-! ## Places -/

/-- The request goes to the place, with the method that the place answers to. -/
def Request.GoesTo (q : Request) (route : Route) : Prop :=
  Route.ofPath? (decodePath q.path) = some route ∧ q.method = route.method

instance (q : Request) (route : Route) : Decidable (q.GoesTo route) :=
  inferInstanceAs (Decidable (_ ∧ _))

theorem Request.GoesTo.unique {q : Request} {route route' : Route} (h : q.GoesTo route)
    (h' : q.GoesTo route') : route = route' :=
  Option.some.inj (h.1.symm.trans h'.1)

namespace Server

theorem handle_of_goesTo {s : Server} {q : Request} {route : Route} (h : q.GoesTo route) :
    s.handle q = ((s.serve q route).1.encoded, (s.serve q route).2) := by
  unfold handle
  simp only [h.1, h.2, if_true]

theorem handle_elsewhere {s : Server} {q : Request} (h : ∀ route, ¬ q.GoesTo route) :
    (s.handle q).2 = s := by
  unfold handle
  dsimp only
  split
  · rename_i route hroute
    have hmethod : q.method ≠ route.method := fun hmethod => h route ⟨hroute, hmethod⟩
    rw [if_neg hmethod]
  · rfl

/-! ## Tables that a request leaves -/

@[simp] theorem idFor_tables (s : Server) (id : Option String) :
    (s.idFor id).2.tables = s.tables := by
  cases id <;> rfl

/-- The reply to a request before it is encoded, and the tables after it. -/
inductive Served (s : Server) (q : Request) : Reply → Tables → Prop
  | unchanged (reply : Reply) : Served s q reply s.tables
  | child {c : Child} : q.GoesTo .children → s.tables.child? c.id = none →
      c.activeGoalId = none → Served s q (.json 201 (childJson c)) (s.tables.addChild c)
  | behavior {b : Behavior} : q.GoesTo .behaviors → s.tables.behavior? b.id = none →
      Served s q (.json 201 (behaviorJson b)) (s.tables.addBehavior b)
  | reward {r : Reward} {active : Bool} {f : RewardForm} : q.GoesTo .rewards →
      q.form s.settings.bodyDepth RewardForm.check = .ok f → f.reward? r.id r.created = some r →
      (s.tables.child? r.childId).isSome → s.tables.reward? r.id = none →
      Served s q (.json 201 (rewardJson r)) (withReward s.tables r active)
  | moments {fs : List MomentForm} :
      q.GoesTo .momentBatch → q.form s.settings.bodyDepth checkBatch = .ok fs →
      Served s q ((s.logMoments fs).1.elim .failed batchReply) (s.logMoments fs).2.tables
  | displayed {childId : String} {f : DisplayedForm} {d : Display} :
      q.GoesTo (.displayed childId) → q.form s.settings.bodyDepth DisplayedForm.check = .ok f →
      (s.tables.child? childId).isSome →
      display s.settings.threshold (firstOfEach f.cards childId) (f.time.getD s.clock)
        s.store = .ok d →
      Served s q (displayedReply childId (f.time.getD s.clock) d)
        { s.tables with cooldowns := d.store.text }

variable {s : Server} {q : Request}

theorem served_child (hq : q.GoesTo .children) (f : ChildForm) :
    Served s q (s.storeChild f).1 (s.storeChild f).2.tables := by
  unfold storeChild
  dsimp only
  split
  · rw [idFor_tables]
    exact .unchanged _
  · split
    · rw [idFor_tables]
      exact .unchanged _
    · rename_i hnew
      rw [idFor_tables, Option.not_isSome_iff_eq_none] at hnew
      dsimp only
      rw [idFor_tables]
      exact .child hq hnew rfl

theorem served_behavior (hq : q.GoesTo .behaviors) (f : BehaviorForm) :
    Served s q (s.storeBehavior f).1 (s.storeBehavior f).2.tables := by
  unfold storeBehavior
  dsimp only
  split
  · rw [idFor_tables]
    exact .unchanged _
  · split
    · rw [idFor_tables]
      exact .unchanged _
    · rename_i hnew
      rw [idFor_tables, Option.not_isSome_iff_eq_none] at hnew
      dsimp only
      rw [idFor_tables]
      exact .behavior hq hnew

theorem reward?_fields {f : RewardForm} {id : String} {created : Instant} {r : Reward}
    (h : f.reward? id created = some r) :
    r.id = id ∧ r.created = created ∧ r.childId = f.childId ∧ r.targetPoints = f.targetPoints ∧
      isStorable (r.frozenPoints.getD 0) = true := by
  unfold RewardForm.reward? at h
  simp only [Option.bind_eq_bind, Option.bind_eq_some_iff] at h
  obtain ⟨start, -, due, -, h⟩ := h
  split at h
  · cases h
  · rename_i hfits
    cases h
    exact ⟨rfl, rfl, rfl, rfl, by simpa using hfits⟩

theorem served_reward (hq : q.GoesTo .rewards) {f : RewardForm}
    (hform : q.form s.settings.bodyDepth RewardForm.check = .ok f) :
    Served s q (s.storeReward f).1 (s.storeReward f).2.tables := by
  unfold storeReward
  dsimp only
  split
  · exact .unchanged _
  · split
    · exact .unchanged _
    · rename_i hchild
      split
      · rw [idFor_tables]
        exact .unchanged _
      · rename_i hnew
        rw [idFor_tables, Option.not_isSome_iff_eq_none] at hnew
        split
        · rw [idFor_tables]
          exact .unchanged _
        · rename_i r hr
          obtain ⟨hid, hcreated, hchildId, -⟩ := reward?_fields hr
          dsimp only
          rw [idFor_tables]
          refine .reward hq hform ?_ ?_ ?_
          · rw [hid, hcreated]
            exact hr
          · rw [hchildId]
            exact Option.isSome_iff_ne_none.mpr (by simpa using hchild)
          · rw [hid]
            exact hnew

/-- A batch of a fitting size is judged, moment by moment. -/
theorem storeBatch_eq {fs : List MomentForm} (hempty : fs ≠ [])
    (hlimit : (fs.length : Int) ≤ s.settings.batchLimit) (hreach : s.reachable = true) :
    s.storeBatch fs = ((s.logMoments fs).1.elim .failed batchReply, (s.logMoments fs).2) := by
  have hfits : ¬ s.settings.batchLimit < fs.length := Int.not_lt.mpr hlimit
  simp only [storeBatch, List.isEmpty_iff, hempty, hfits, hreach, if_false, Bool.not_true,
    Bool.false_eq_true]
  split <;> rename_i h <;> rw [h] <;> rfl

/-- A batch over the limit is refused, whatever its moments are. -/
theorem storeBatch_tooLarge {fs : List MomentForm} (hempty : fs ≠ [])
    (hlimit : s.settings.batchLimit < fs.length) :
    s.storeBatch fs = (.refused (.batchTooLarge s.settings.batchLimit fs.length), s) := by
  simp [storeBatch, hempty, hlimit]

theorem served_batch (hq : q.GoesTo .momentBatch) {fs : List MomentForm}
    (hform : q.form s.settings.bodyDepth checkBatch = .ok fs) :
    Served s q (s.storeBatch fs).1 (s.storeBatch fs).2.tables := by
  by_cases hempty : fs = []
  · subst hempty
    exact .unchanged _
  · by_cases hlimit : s.settings.batchLimit < fs.length
    · rw [storeBatch_tooLarge hempty hlimit]
      exact .unchanged _
    · cases hreach : s.reachable with
      | false =>
        have hstore : s.storeBatch fs = (.failed, s) := by
          simp [storeBatch, hempty, hlimit, hreach]
        rw [hstore]
        exact .unchanged _
      | true =>
        rw [storeBatch_eq hempty (Int.not_lt.mp hlimit) hreach]
        exact .moments hq hform

/-- Displays are stored with a reply about them, or they are refused. -/
theorem recordDisplayed_cases (s : Server) (childId : String) (f : DisplayedForm) :
    (∃ r, s.recordDisplayed childId f = (r, s) ∧ 400 ≤ r.encoded.status) ∨
      (s.tables.child? childId).isSome ∧ ∃ d,
        display s.settings.threshold (firstOfEach f.cards childId) (f.time.getD s.clock)
          s.store = .ok d ∧
        s.recordDisplayed childId f = (displayedReply childId (f.time.getD s.clock) d,
          { s with tables := { s.tables with cooldowns := d.store.text } }) := by
  unfold recordDisplayed
  dsimp only
  split
  · exact Or.inl ⟨_, rfl, by decide⟩
  · split
    · exact Or.inl ⟨_, rfl, show 400 ≤ 404 by decide⟩
    · rename_i hchild
      split
      · exact Or.inl ⟨_, rfl, by decide⟩
      · rename_i d hd
        exact Or.inr ⟨Option.isSome_iff_ne_none.mpr (by simpa using hchild), d, hd, rfl⟩

theorem served_displayed {childId : String} (hq : q.GoesTo (.displayed childId)) {f : DisplayedForm}
    (hform : q.form s.settings.bodyDepth DisplayedForm.check = .ok f) :
    Served s q (s.recordDisplayed childId f).1 (s.recordDisplayed childId f).2.tables := by
  rcases recordDisplayed_cases s childId f with ⟨r, hsame, -⟩ | ⟨hchild, d, hd, hstored⟩
  · rw [hsame]
    exact .unchanged _
  · rw [hstored]
    exact .displayed hq hform hchild hd

theorem served_withForm {α : Type} {check : Json → Checked α} {act : α → Reply × Server}
    (h : ∀ a, q.form s.settings.bodyDepth check = .ok a → Served s q (act a).1 (act a).2.tables) :
    Served s q (s.withForm q check act).1 (s.withForm q check act).2.tables := by
  unfold withForm
  split
  · rename_i a ha
    exact h a ha
  · exact .unchanged _

/-- Whatever is sent, the request ends in one of these ways. A request to no place, or with
another method than its own, is not served and changes nothing. -/
theorem handle_served (s : Server) (q : Request) :
    ∃ reply, Served s q reply (s.handle q).2.tables ∧
      ((s.handle q).1 = reply.encoded ∨ ∀ route, ¬ q.GoesTo route) := by
  by_cases hroute : ∃ route, q.GoesTo route
  · obtain ⟨route, hq⟩ := hroute
    rw [handle_of_goesTo hq]
    refine ⟨(s.serve q route).1, ?_, Or.inl rfl⟩
    cases route with
    | children => exact served_withForm fun f _ => served_child hq f
    | behaviors => exact served_withForm fun f _ => served_behavior hq f
    | rewards => exact served_withForm fun _ hform => served_reward hq hform
    | momentBatch => exact served_withForm fun _ hform => served_batch hq hform
    | displayed childId => exact served_withForm fun _ hform => served_displayed hq hform
    | health => exact .unchanged _
    | cooldowns => exact .unchanged _
    | cards childId => exact .unchanged _
    | debug childId => exact .unchanged _
    | debugText childId => exact .unchanged _
  · push Not at hroute
    rw [handle_elsewhere hroute]
    exact ⟨(s.handle q).1, .unchanged _, Or.inr hroute⟩

/-! ## What no request changes -/

/-- Requests set neither the clock nor whether the tables can be reached, and no setting. -/
structure SameSetting (s s' : Server) : Prop where
  settings : s'.settings = s.settings
  clock : s'.clock = s.clock
  reachable : s'.reachable = s.reachable

theorem SameSetting.refl (s : Server) : SameSetting s s := ⟨rfl, rfl, rfl⟩

theorem SameSetting.trans {s s' s'' : Server} (h : SameSetting s s') (h' : SameSetting s' s'') :
    SameSetting s s'' :=
  ⟨h'.settings.trans h.settings, h'.clock.trans h.clock, h'.reachable.trans h.reachable⟩

theorem SameSetting.withTables {s s' : Server} (h : SameSetting s s') (t : Tables) :
    SameSetting s { s' with tables := t } :=
  ⟨h.settings, h.clock, h.reachable⟩

theorem sameSetting_idFor (s : Server) (id : Option String) : SameSetting s (s.idFor id).2 := by
  cases id <;> exact ⟨rfl, rfl, rfl⟩

theorem sameSetting_logMoment (s : Server) (f : MomentForm) : SameSetting s (s.logMoment f).2 := by
  have hid := sameSetting_idFor s f.id
  unfold logMoment
  dsimp only
  split
  · exact .refl _
  · split
    · exact hid
    · split
      · exact hid
      · exact hid
      · split
        · exact hid.withTables _
        · exact hid

theorem sameSetting_logMoments (s : Server) (fs : List MomentForm) :
    SameSetting s (s.logMoments fs).2 := by
  induction fs generalizing s with
  | nil => exact .refl _
  | cons f fs ih =>
    have hfirst := sameSetting_logMoment s f
    unfold logMoments
    split
    · rename_i s' hlog
      rw [hlog] at hfirst
      exact hfirst
    · rename_i first s' hlog
      rw [hlog] at hfirst
      exact hfirst.trans (ih s')

theorem sameSetting_withForm {α : Type} {check : Json → Checked α} {act : α → Reply × Server}
    (h : ∀ a, SameSetting s (act a).2) : SameSetting s (s.withForm q check act).2 := by
  unfold withForm
  split
  · exact h _
  · exact .refl _

theorem sameSetting_storeChild (s : Server) (f : ChildForm) : SameSetting s (s.storeChild f).2 := by
  have hid := sameSetting_idFor s f.id
  unfold storeChild
  dsimp only
  split
  · exact hid
  · split
    · exact hid
    · exact hid.withTables _

theorem sameSetting_storeBehavior (s : Server) (f : BehaviorForm) :
    SameSetting s (s.storeBehavior f).2 := by
  have hid := sameSetting_idFor s f.id
  unfold storeBehavior
  dsimp only
  split
  · exact hid
  · split
    · exact hid
    · exact hid.withTables _

theorem sameSetting_storeReward (s : Server) (f : RewardForm) :
    SameSetting s (s.storeReward f).2 := by
  have hid := sameSetting_idFor s f.id
  unfold storeReward
  dsimp only
  split
  · exact .refl s
  · split
    · exact .refl s
    · split
      · exact hid
      · split
        · exact hid
        · exact hid.withTables _

theorem sameSetting_storeBatch (s : Server) (fs : List MomentForm) :
    SameSetting s (s.storeBatch fs).2 := by
  have hbatch := sameSetting_logMoments s fs
  unfold storeBatch
  split
  · exact .refl s
  · split
    · exact .refl s
    · split
      · exact .refl s
      · split <;> rename_i hlog <;> rw [hlog] at hbatch <;> exact hbatch

theorem sameSetting_recordDisplayed (s : Server) (childId : String) (f : DisplayedForm) :
    SameSetting s (s.recordDisplayed childId f).2 := by
  rcases recordDisplayed_cases s childId f with ⟨r, hsame, -⟩ | ⟨-, d, -, hstored⟩
  · rw [hsame]
    exact .refl s
  · rw [hstored]
    exact SameSetting.withTables (.refl s) _

theorem sameSetting_serve (s : Server) (q : Request) (route : Route) :
    SameSetting s (s.serve q route).2 := by
  cases route with
  | children => exact sameSetting_withForm (sameSetting_storeChild s)
  | behaviors => exact sameSetting_withForm (sameSetting_storeBehavior s)
  | rewards => exact sameSetting_withForm (sameSetting_storeReward s)
  | momentBatch => exact sameSetting_withForm (sameSetting_storeBatch s)
  | displayed childId => exact sameSetting_withForm (sameSetting_recordDisplayed s childId)
  | _ => exact .refl s

theorem sameSetting_handle (s : Server) (q : Request) : SameSetting s (s.handle q).2 := by
  by_cases hroute : ∃ route, q.GoesTo route
  · obtain ⟨route, hq⟩ := hroute
    rw [handle_of_goesTo hq]
    exact sameSetting_serve s q route
  · push Not at hroute
    rw [handle_elsewhere hroute]
    exact .refl _

end Server

end Service

end MomentInsights
