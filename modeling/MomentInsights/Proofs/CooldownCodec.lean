-- Stored cooldown records read back: what a store writes, it finds again, record for
-- record and in the same order. Two things get lost on the way: a record whose rest has no
-- end, and the halves of a surrogate pair, which read back as the character of both.
import MomentInsights.Cooldown.Codec
import MomentInsights.Proofs.IsoText
import MomentInsights.Proofs.JsonText

namespace MomentInsights.Cooldown

open Json (textObject arrayChars objectChars memberChars)

/-! ## The text of a list of records -/

/-- The members of a record's object. -/
def Record.members (r : Record) : List (String × WideText) :=
  [("templateId", r.templateId), ("childId", r.childId), ("lastShownAt", r.shown.text)]

theorem named_members (r : Record) : Json.Named r.members :=
  ⟨by simp [Record.members], by simp [Record.members]⟩

theorem encodeMember_toList (name : String) (value : WideText) :
    (encodeMember name value).toList = memberChars (name, value) := by
  simp [encodeMember, memberChars]

theorem encodeRecord_toList (r : Record) : (encodeRecord r).toList = objectChars r.members := by
  simp [encodeRecord, objectChars, Json.separated, encodeMember_toList, Record.members]

theorem encode_eq (rs : List Record) :
    encode rs = String.ofList (arrayChars (rs.map Record.members)) := by
  rw [← String.ofList_toList (s := encode rs)]
  congr 1
  simp [encode, arrayChars, Json.intercalate_eq_separated, encodeRecord_toList, Function.comp_def]

/-! ## The records of the text -/

/-- The record with the pairs of halves in its names joined. -/
def Record.joined (r : Record) : Record := ⟨r.templateId.joined, r.childId.joined, r.shown⟩

/-- The record reads back as it was written: its rest has an end, and in its names there is
no pair of halves to join. -/
structure Periods.ReadsBack (p : Periods) (r : Record) : Prop where
  hasEnd : p.hasEnd r.shown = true
  joined : r.joined = r

/-- The names of a display are strings. -/
theorem readsBack_ofPair {p : Periods} {time : Instant} (h : p.hasEnd time = true)
    (pair : String × String) : p.ReadsBack (.ofPair pair time) := by
  refine ⟨h, ?_⟩
  simp [Record.joined, Record.ofPair, WideText.joined_ofString]

theorem decodeTime_text (room : Room) (t : Instant) :
    decodeTime room (Json.text (t.text : WideText)) = .ok (some t) := by
  have htext : Json.text (WideText.ofString t.text) = .str t.text := by
    rw [Json.text, WideText.string?_ofString]
  simp [htext, decodeTime, Json.wideText?, IsoReader.readWide?_ofString, IsoReader.read?_text,
    Timestamp.utc_ofInstant, Except.toOption]

theorem shownDepth_text (w : WideText) : (Json.text w).shownDepth = 1 := by
  unfold Json.text
  split <;> rfl

/-- The object of a record can be shown, so it can be passed over. -/
theorem passOver_members (room : Room) (r : Record) :
    passOver room (textObject r.members) = .ok none := by
  have hdepth : (textObject r.members).shownDepth = 2 := by
    simp [textObject, Record.members, Json.readMember, Json.shownDepth, Json.membersDepth,
      shownDepth_text]
  have hroom := room.two_le_item
  rw [passOver, hdepth, if_neg (by omega)]

/-- A record is read from its object, unless its rest has no end. -/
theorem decodeRecord_members (p : Periods) (room : Room) (r : Record) :
    decodeRecord p room (textObject r.members) =
      .ok (if p.hasEnd r.shown then some r.joined else none) := by
  have htemplate : (textObject r.members).member? "templateId" =
      some (Json.text r.templateId.joined) := by
    simp [textObject, Record.members, Json.readMember, Json.member?]
  have hchild : (textObject r.members).member? "childId" = some (Json.text r.childId.joined) := by
    simp [textObject, Record.members, Json.readMember, Json.member?]
  have hshown : (textObject r.members).member? "lastShownAt" =
      some (Json.text (r.shown.text : WideText)) := by
    simp [textObject, Record.members, Json.readMember, Json.member?, WideText.joined_ofString]
  simp only [decodeRecord, htemplate, hchild, hshown, Option.bind_some, Json.wideText?_text,
    decodeTime_text, Outcome.ok_bind]
  cases p.hasEnd r.shown with
  | true => rfl
  | false => exact passOver_members room r

/-- Of written records, those whose rest has an end are read back, with their names joined. -/
theorem decode_encode_filter (p : Periods) (room : Room) (rs : List Record) :
    decode p room (some (encode rs)) =
      .ok ((rs.filter fun r => p.hasEnd r.shown).map Record.joined) := by
  have hread : Json.read room.text (encode rs) =
      .ok (.arr (rs.map fun r => textObject r.members)) := by
    have hnamed : ∀ ms ∈ rs.map Record.members, Json.Named ms :=
      List.forall_mem_map.mpr fun r _ => named_members r
    rw [encode_eq, Json.read_arrayChars hnamed room.two_le_text, List.map_map]
    rfl
  have hitems : (rs.map fun r => textObject r.members).mapM (decodeRecord p room) =
      .ok (rs.map fun r => if p.hasEnd r.shown then some r.joined else none) := by
    rw [Outcome.mapM_eq_ok, List.forall₂_map_left_iff, List.forall₂_map_right_iff,
      List.forall₂_same]
    exact fun r _ => decodeRecord_members p room r
  have hkept : (rs.filterMap fun r => if p.hasEnd r.shown then some r.joined else none) =
      (rs.filter fun r => p.hasEnd r.shown).map Record.joined := by
    rw [← List.filterMap_eq_filter, List.map_filterMap]
    refine List.filterMap_congr fun r _ => ?_
    cases h : p.hasEnd r.shown <;> simp [Option.guard, h]
  simp [decode, hread, hitems, List.filterMap_map, hkept]

/-- Written records read back. -/
theorem decode_encode {p : Periods} {rs : List Record} (h : ∀ r ∈ rs, p.ReadsBack r) (room : Room) :
    decode p room (some (encode rs)) = .ok rs := by
  have hjoined : rs.map Record.joined = rs := by
    conv_rhs => rw [← List.map_id rs]
    exact List.map_congr_left fun r hr => (h r hr).joined
  rw [decode_encode_filter, List.filter_eq_self.mpr fun r hr => (h r hr).hasEnd, hjoined]

/-- An empty array holds no records, and neither does no text. -/
theorem decode_seed (p : Periods) (room : Room) : decode p room (some "[]") = .ok [] := by
  have h : ∀ r ∈ ([] : List Record), p.ReadsBack r := by simp
  exact decode_encode h room

theorem decode_none (p : Periods) (room : Room) : decode p room none = .ok [] := rfl

end MomentInsights.Cooldown
