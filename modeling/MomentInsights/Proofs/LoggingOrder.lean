-- Moments that are logged in another order and in other batches. A moment with an id of its
-- own is stored as the same row wherever it stands, and insights order the rows by their
-- times and ids. So nothing that is read afterwards tells how the moments were sent. A batch
-- over the limit is refused as a whole, so only batches within it count.
import MomentInsights.Proofs.MomentBatch
import MomentInsights.Proofs.OneChild

namespace MomentInsights.Service

/-! ## The row of a moment -/

/-- The row that a moment with an id of its own is stored as, if it can be stored. -/
def MomentForm.row? (t : Tables) (f : MomentForm) : Option Moment := do
  let id ← f.id
  let time ← f.time.utc.toOption
  let points ← f.pointsWith (t.behavior? f.behaviorId)
  return ⟨id, f.childId, f.behaviorId, time, points, f.rewardId, f.loggedBy, f.note⟩

/-- The rows of the moments, in their order. -/
def rowsOf (t : Tables) (fs : List MomentForm) : List Moment := fs.filterMap (·.row? t)

/-- The moments have ids of their own that are not stored, no two of them the same one, and
each of them is acceptable. -/
structure Storable (t : Tables) (fs : List MomentForm) : Prop where
  acceptable : ∀ f ∈ fs, ∃ id, f.id = some id ∧ Acceptable t f id
  distinct : (fs.map (·.id)).Nodup

variable {t : Tables} {f : MomentForm} {fs fs' : List MomentForm}

theorem Storable.perm (h : Storable t fs) (hperm : fs'.Perm fs) : Storable t fs' :=
  ⟨fun f hf => h.acceptable f (hperm.mem_iff.mp hf),
    (hperm.map _).nodup_iff.mpr h.distinct⟩

theorem rowsOf_append (t : Tables) (fs fs' : List MomentForm) :
    rowsOf t (fs ++ fs') = rowsOf t fs ++ rowsOf t fs' := List.filterMap_append

/-- An acceptable moment has a row, and its values can be stored. -/
theorem exists_row {id : String} (hid : f.id = some id) (h : Acceptable t f id) :
    ∃ time points, f.time.utc = .ok time ∧ f.pointsWith (t.behavior? f.behaviorId) = some points ∧
      isStorable points = true ∧ f.row? t = some
        ⟨id, f.childId, f.behaviorId, time, points, f.rewardId, f.loggedBy, f.note⟩ := by
  obtain ⟨-, -, hpoints, ⟨time, htime⟩, hfits⟩ := h
  obtain ⟨points, hpoints⟩ := Option.isSome_iff_exists.mp ((pointsWith_isSome _ _).mpr hpoints)
  refine ⟨time, points, htime, hpoints, hfits points hpoints, ?_⟩
  unfold MomentForm.row?
  rw [hid, htime, hpoints]
  rfl

/-- Each acceptable moment has its own row. -/
theorem ids_rowsOf (h : ∀ f ∈ fs, ∃ id, f.id = some id ∧ Acceptable t f id) :
    (rowsOf t fs).map (some ·.id) = fs.map (·.id) := by
  induction fs with
  | nil => rfl
  | cons f fs ih =>
    obtain ⟨id, hid, hf⟩ := h f List.mem_cons_self
    obtain ⟨time, points, -, -, -, hrow⟩ := exists_row hid hf
    have hrest := ih fun f' hf' => h f' (List.mem_cons_of_mem f hf')
    unfold rowsOf at hrest ⊢
    rw [List.filterMap_cons_some hrow, List.map_cons, List.map_cons, hrest, hid]

/-- Rows that are stored take no id of the other moments. -/
theorem Storable.append (h : Storable t (fs ++ fs')) :
    Storable t fs ∧ Storable (t.withMoments (rowsOf t fs)) fs' := by
  obtain ⟨hfs, hfs', hdisjoint⟩ := List.nodup_append.mp (List.map_append ▸ h.distinct)
  have hbefore : Storable t fs :=
    ⟨fun f hf => h.acceptable f (List.mem_append_left fs' hf), hfs⟩
  refine ⟨hbefore, ?_, hfs'⟩
  intro f hf
  obtain ⟨id, hid, hchild, hnew, hvalues⟩ := h.acceptable f (List.mem_append_right fs hf)
  refine ⟨id, hid, hchild, Tables.moment?_withMoments_eq_none.mpr ⟨hnew, ?_⟩, hvalues⟩
  rintro m hm rfl
  have hids : some m.id ∈ fs.map (·.id) := by
    rw [← ids_rowsOf hbefore.acceptable]
    exact List.mem_map_of_mem hm
  exact hdisjoint _ hids _ (List.mem_map_of_mem hf) hid.symm

namespace Server

variable {s : Server}

/-! ## One batch -/

theorem logMoment_row (h : Storable s.tables [f]) :
    ∃ m, rowsOf s.tables [f] = [m] ∧
      s.logMoment f = (some (.stored m), { s with tables := s.tables.withMoments [m] }) := by
  obtain ⟨id, hid, hf⟩ := h.acceptable f (by simp)
  obtain ⟨time, points, htime, hpoints, hfits, hrow⟩ := exists_row hid hf
  have hknown : s.tables.child? f.childId ≠ none := Option.isSome_iff_ne_none.mp hf.1
  refine ⟨_, List.filterMap_cons_some hrow, ?_⟩
  simp [logMoment, idFor, hid, hknown, hf.2.1, htime, hpoints, hfits, Tables.addMoment,
    Tables.withMoments]

/-- Each moment is stored as its row. -/
theorem logMoments_rows (h : Storable s.tables fs) :
    s.logMoments fs = (some ((rowsOf s.tables fs).map .stored),
      { s with tables := s.tables.withMoments (rowsOf s.tables fs) }) := by
  induction fs generalizing s with
  | nil => simp [logMoments, rowsOf]
  | cons f fs ih =>
    have hboth : Storable s.tables ([f] ++ fs) := h
    obtain ⟨hone, hrest⟩ := hboth.append
    obtain ⟨m, hm, hlog⟩ := logMoment_row hone
    rw [hm] at hrest
    have hothers := @ih { s with tables := s.tables.withMoments [m] } hrest
    have hrows : rowsOf s.tables (f :: fs) = [m] ++ rowsOf s.tables fs := by
      rw [← hm, ← rowsOf_append]
      rfl
    rw [logMoments, hlog]
    dsimp only
    rw [hothers, hrows, Tables.withMoments_append]
    rfl

end Server

/-! ## Batches of moments -/

/-- A request for a batch of moments, sent at a time. -/
structure Post where
  time : Instant
  request : Request
  moments : List MomentForm

/-- The request carries the moments, at least one. -/
structure Post.Carries (settings : Settings) (p : Post) : Prop where
  goes : p.request.GoesTo .momentBatch
  form : p.request.form settings.bodyDepth checkBatch = .ok p.moments
  some : p.moments ≠ []

/-- It carries no more of them than a batch may have. -/
structure Post.Fits (settings : Settings) (p : Post) : Prop extends p.Carries settings where
  within : (p.moments.length : Int) ≤ settings.batchLimit

/-- The moments of the batches one after another. -/
def allMoments (posts : List Post) : List MomentForm := posts.flatMap (·.moments)

namespace Server

variable {s : Server} {p : Post} {posts posts' : List Post}

def atTime (s : Server) (time : Instant) : Server := { s with clock := time }

def post (s : Server) (p : Post) : Reply × Server := (s.atTime p.time).handle p.request

def afterPosts (s : Server) (posts : List Post) : Server :=
  posts.foldl (fun s p => (s.post p).2) s

/-- The replies to the batches, each sent after the ones before it. -/
def replies (s : Server) : List Post → List Reply
  | [] => []
  | p :: posts => (s.post p).1 :: replies (s.post p).2 posts

/-- The service with further rows, at the time. -/
def withRows (s : Server) (time : Instant) (rows : List Moment) : Server :=
  { s.atTime time with tables := s.tables.withMoments rows }

theorem post_eq (hp : p.Fits s.settings) (hreach : s.reachable = true)
    (h : Storable s.tables p.moments) :
    s.post p = (batchReply ((rowsOf s.tables p.moments).map .stored),
      s.withRows p.time (rowsOf s.tables p.moments)) := by
  have hlog := logMoments_rows (s := s.atTime p.time) h
  unfold post
  rw [handle_batch (s := s.atTime p.time) hp.goes hp.form hp.some hp.within hreach, hlog]
  rfl

/-- Each batch is answered with its rows, and leaves the tables with them. -/
theorem posts_stored (hfits : ∀ p ∈ posts, p.Fits s.settings)
    (hreach : s.reachable = true) (h : Storable s.tables (allMoments posts)) :
    s.replies posts =
        posts.map (fun p => batchReply ((rowsOf s.tables p.moments).map .stored)) ∧
      (s.afterPosts posts).tables = s.tables.withMoments (rowsOf s.tables (allMoments posts)) ∧
      (s.afterPosts posts).reachable = true ∧ (s.afterPosts posts).settings = s.settings := by
  induction posts generalizing s with
  | nil => exact ⟨rfl, (Tables.withMoments_nil s.tables).symm, hreach, rfl⟩
  | cons p posts ih =>
    have hall : allMoments (p :: posts) = p.moments ++ allMoments posts := rfl
    rw [hall] at h ⊢
    obtain ⟨hfirst, hrest⟩ := h.append
    have hpost := post_eq (hfits p List.mem_cons_self) hreach hfirst
    -- the others are sent to a service that knows the same behaviors, so their rows are the same
    obtain ⟨hreplies, htables, hstill, hsetting⟩ := @ih (s.withRows p.time (rowsOf s.tables p.moments))
      (fun p' hp' => hfits p' (List.mem_cons_of_mem p hp')) hreach hrest
    unfold replies afterPosts
    rw [List.foldl_cons, hpost, List.map_cons, hreplies, rowsOf_append, Tables.withMoments_append]
    exact ⟨rfl, htables, hstill, hsetting⟩

/-- A batch over the limit is refused as a whole. -/
theorem post_refused (hp : p.Carries s.settings)
    (hlimit : s.settings.batchLimit < p.moments.length) :
    s.post p = (.refused (.batchTooLarge s.settings.batchLimit p.moments.length),
      s.atTime p.time) :=
  handle_largeBatch (s := s.atTime p.time) hp.goes hp.form hp.some hlimit

/-! ## What is read afterwards -/

theorem keyed_withMoments {t : Tables} {fs : List MomentForm} (hkeyed : t.Keyed)
    (h : Storable t fs) : (t.withMoments (rowsOf t fs)).Keyed := by
  have hids := ids_rowsOf h.acceptable
  have hrows : ((rowsOf t fs).map (·.id)).Nodup := by
    have hsome : (((rowsOf t fs).map (·.id)).map some).Nodup := by
      rw [List.map_map]
      exact hids ▸ h.distinct
    exact hsome.of_map
  refine ⟨hkeyed.behaviors, hkeyed.rewards, ?_⟩
  unfold Tables.withMoments
  rw [List.map_append, List.nodup_append]
  refine ⟨hkeyed.moments, hrows, ?_⟩
  intro id hid id' hid' hsame
  obtain ⟨m, hm, rfl⟩ := List.mem_map.mp hid
  obtain ⟨m', hm', rfl⟩ := List.mem_map.mp hid'
  have hgiven : some m'.id ∈ fs.map (·.id) := hids ▸ List.mem_map_of_mem hm'
  obtain ⟨f, hf, hfid⟩ := List.mem_map.mp hgiven
  obtain ⟨id, hid, -, hnew, -⟩ := h.acceptable f hf
  rw [hfid, Option.some.injEq, ← hsame] at hid
  subst hid
  exact List.find?_eq_none.mp hnew m hm (beq_iff_eq.mpr rfl)

theorem agreeOn_withMoments (t : Tables) {ms ms' : List Moment} (h : ms'.Perm ms)
    (childId : String) : (t.withMoments ms).AgreeOn childId (t.withMoments ms') where
  child := rfl
  moments := (h.append_left t.moments).filter _
  rewards := .refl _
  behaviors := .refl _

/-- A query that names a time is answered for that time whenever it is asked. -/
theorem evaluationTime_explicit (s s' : Server) {query : List (String × String)}
    (h : (query.lookup "now").isSome) : s'.evaluationTime query = s.evaluationTime query := by
  obtain ⟨text, htext⟩ := Option.isSome_iff_exists.mp h
  unfold evaluationTime
  rw [htext]

/-- Moments that have ids of their own and can be stored are all stored, in any order and in
any batches within the limit. After two ways of sending the same moments, cards and reports
of every child are the same at every time that the request names. A batch over the limit is
refused as a whole, whatever its moments are, and nothing of it is stored. -/
theorem logging_order_does_not_matter (hkeyed : s.tables.Keyed) (hreach : s.reachable = true)
    (hfits : ∀ p ∈ posts, p.Fits s.settings)
    (hfits' : ∀ p ∈ posts', p.Fits s.settings)
    (hstorable : Storable s.tables (allMoments posts))
    (hsame : (allMoments posts').Perm (allMoments posts)) :
    (s.replies posts =
        posts.map fun p => batchReply ((rowsOf s.tables p.moments).map .stored)) ∧
      (∀ p ∈ posts, (rowsOf s.tables p.moments).map (some ·.id) = p.moments.map (·.id)) ∧
      (∀ childId, ∀ route ∈ [Route.cards childId, .debug childId, .debugText childId],
        ∀ q : Request, q.GoesTo route → (q.query.lookup "now").isSome →
          ((s.afterPosts posts').handle q).1 = ((s.afterPosts posts).handle q).1) ∧
      ∀ (s : Server) (p : Post), p.Carries s.settings → s.settings.batchLimit < p.moments.length →
        s.post p = (.refused (.batchTooLarge s.settings.batchLimit p.moments.length),
          s.atTime p.time) := by
  obtain ⟨hreplies, htables, hstill, hsetting⟩ := posts_stored hfits hreach hstorable
  refine ⟨hreplies, ?_, ?_, fun s p => post_refused⟩
  · intro p hp
    apply ids_rowsOf
    intro f hf
    exact hstorable.acceptable f (List.mem_flatMap_of_mem hp hf)
  · intro childId route hroute q hq hnow
    obtain ⟨-, htables', hstill', hsetting'⟩ := posts_stored hfits' hreach (hstorable.perm hsame)
    have hrows : (rowsOf s.tables (allMoments posts')).Perm (rowsOf s.tables (allMoments posts)) :=
      hsame.filterMap _
    have hagree := agreeOn_withMoments s.tables hrows childId
    have hafter := keyed_withMoments hkeyed hstorable
    rw [handle_of_goesTo hq, handle_of_goesTo hq,
      serve_agree (evaluationTime_explicit _ _ hnow) (hstill'.trans hstill.symm) _ hroute]
    intro now
    unfold store
    rw [htables, htables', hsetting, hsetting',
      Engine.run_source (Tables.source_agree hagree hafter now)]
    rfl

/-! ## Two moments -/

deriving instance DecidableEq for MomentForm

/-- Moments that are each stored when they are sent alone can be stored. -/
theorem storable_of_logged
    (h : fs.all (fun f => f.id.isSome && (s.logMoment f).1.any isStored) = true)
    (hdistinct : (fs.map (·.id)).Nodup) : Storable s.tables fs := by
  refine ⟨?_, hdistinct⟩
  intro f hf
  obtain ⟨hid, hstored⟩ := (Bool.and_eq_true _ _).mp (List.all_eq_true.mp h f hf)
  obtain ⟨id, hid⟩ := Option.isSome_iff_exists.mp hid
  rcases logMoment_cases s f with ⟨l, hjudged, hlog⟩ | ⟨-, hnone, -⟩
  · rw [hlog] at hstored
    have hacceptable := hjudged.isStored_iff.mp hstored
    unfold idAfter at hacceptable
    rw [hid] at hacceptable
    exact ⟨id, hid, hacceptable⟩
  · rw [hnone] at hstored
    cases hstored

def momentItem (id time : String) : Json :=
  .obj [("id", .str id), ("child_id", .str "c1"), ("behavior_type_id", .str "b1"),
    ("timestamp", .str time), ("points_applied", .whole 1)]

def batchOf (items : List Json) : Request where
  method := "POST"
  path := "/records/moments/batch"
  query := []
  payload := .value (.obj [("items", .arr items)])

theorem batchOf_goesTo (items : List Json) : (batchOf items).GoesTo .momentBatch := by
  refine ⟨?_, rfl⟩
  change Route.ofPath? (decodePath "/records/moments/batch") = some .momentBatch
  decide +kernel

/-- The items in a batch that is sent at the start of 1970. -/
def sent (items : List Json) : Post :=
  ⟨Instant.epoch, batchOf items, ((batchOf items).form 0 checkBatch).toOption.getD []⟩

theorem sent_carries {items : List Json} (settings : Settings)
    (hsome : (sent items).moments ≠ []) : (sent items).Carries settings where
  goes := batchOf_goesTo items
  form := by
    -- the items are a value, so there is no text that could nest too deep
    have hvalue : (batchOf items).form settings.bodyDepth checkBatch =
        (batchOf items).form 0 checkBatch := rfl
    unfold sent at hsome ⊢
    dsimp only at hsome ⊢
    rw [hvalue]
    cases hform : (batchOf items).form 0 checkBatch with
    | error reply => simp [hform, Except.toOption] at hsome
    | ok fs => rfl
  some := hsome

theorem sent_fits {items : List Json} {settings : Settings} (hsome : (sent items).moments ≠ [])
    (hwithin : ((sent items).moments.length : Int) ≤ settings.batchLimit) :
    (sent items).Fits settings :=
  ⟨sent_carries settings hsome, hwithin⟩

def morning : Json := momentItem "m1" "1970-01-01T08:00:00Z"

def evening : Json := momentItem "m2" "1970-01-01T20:00:00Z"

theorem storable_morning_evening :
    Storable oneChild.tables (allMoments [sent [morning, evening]]) :=
  storable_of_logged (by decide +kernel) (by decide +kernel)

def secondDayReport : Request where
  method := "GET"
  path := "/insights/c1/debug"
  query := [("now", "1970-01-02T00:00:00Z")]
  payload := .absent

theorem logging_order_does_not_matter_evening_first :
    let together := oneChild.afterPosts [sent [morning, evening]]
    let apart := oneChild.afterPosts [sent [evening], sent [morning]]
    together.tables.moments.map (·.id) = ["m1", "m2"] ∧
      apart.tables.moments.map (·.id) = ["m2", "m1"] ∧
      (apart.handle secondDayReport).1 = (together.handle secondDayReport).1 := by
  have hkeyed : oneChild.tables.Keyed := ⟨by decide, by decide, by decide⟩
  have hfits : ∀ p ∈ [sent [morning, evening]], p.Fits oneChild.settings := by
    intro p hp
    obtain rfl := List.mem_singleton.mp hp
    exact sent_fits (by decide +kernel) (by decide +kernel)
  have hfits' : ∀ p ∈ [sent [evening], sent [morning]], p.Fits oneChild.settings := by
    intro p hp
    simp only [List.mem_cons, List.not_mem_nil, or_false] at hp
    rcases hp with rfl | rfl
    · exact sent_fits (by decide +kernel) (by decide +kernel)
    · exact sent_fits (by decide +kernel) (by decide +kernel)
  have hsame : (allMoments [sent [evening], sent [morning]]).Perm
      (allMoments [sent [morning, evening]]) := by
    decide +kernel
  obtain ⟨-, -, hreads, -⟩ := logging_order_does_not_matter hkeyed rfl hfits hfits'
    storable_morning_evening hsame
  refine ⟨by decide +kernel, by decide +kernel, ?_⟩
  exact hreads "c1" (.debug "c1") (by simp) secondDayReport (by decide +kernel) rfl

/-- Of two moments that can be stored, a service that takes one at a time refuses the batch. -/
theorem large_batch_refused :
    ¬ ∀ (s : Server) (p : Post), p.Carries s.settings → s.reachable = true →
      Storable s.tables p.moments → (s.post p).1.status = 207 := by
  intro hall
  have hstatus := hall { oneChild with settings := { batchLimit := 1 } } (sent [morning, evening])
    (sent_carries _ (by decide +kernel)) rfl (by simpa [allMoments] using storable_morning_evening)
  exact absurd hstatus (by decide +kernel)

end Server

end MomentInsights.Service
