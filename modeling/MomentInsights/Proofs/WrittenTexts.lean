-- Texts that stores write. They read back as they were written, record for record, whatever
-- the names in the records are and however often a record stands there, but for two kinds
-- of records: those whose rest has no end are left out, and a high half in a name right
-- before a low one is read with it as one character. A text that no store wrote may come out
-- as another one when its records are written again, but from then on it stays as it is.
import MomentInsights.Proofs.DamagedText

namespace MomentInsights.Cooldown

/-! ## Halves that are joined -/

/-- A character past 16 bits is written as its two halves are. -/
theorem quotePoint_pairChar (i j : Fin 0x400) :
    Json.quotePoint (.char (Point.pairChar i j)) =
      Json.quotePoint (.high i) ++ Json.quotePoint (.low j) := by
  have hnumber : (Point.char (Point.pairChar i j)).number = 0x10000 + i * 0x400 + j :=
    Point.pairChar_toNat i j
  have hunits : (Point.char (Point.pairChar i j)).units = [0xD800 + i.val, 0xDC00 + j.val] := by
    have hhigh : (0x10000 + i.val * 0x400 + j.val - 0x10000) / 0x400 = i.val := by omega
    have hlow : (0x10000 + i.val * 0x400 + j.val - 0x10000) % 0x400 = j.val := by omega
    unfold Point.units
    dsimp only
    rw [hnumber, if_neg (by omega), hhigh, hlow]
  have hne (c : Char) (hc : c.toNat < 127) :
      (Point.char (Point.pairChar i j)).number ≠ c.toNat := by omega
  rw [Json.Reader.quotePoint_half (p := .high i) rfl, Json.Reader.quotePoint_half (p := .low j) rfl]
  unfold Json.quotePoint
  rw [if_neg (hne _ (by decide)), if_neg (hne _ (by decide)), if_neg (hne _ (by decide)),
    if_neg (hne _ (by decide)), if_neg (hne _ (by decide)), if_neg (by omega), if_neg (by omega),
    if_neg (by omega), hunits, List.flatMap_cons, List.flatMap_singleton]
  rfl

theorem quote_joined (w : WideText) : Json.quote w.joined = Json.quote w := by
  have hpoints (ps : List Point) :
      (Point.joined ps).flatMap Json.quotePoint = ps.flatMap Json.quotePoint := by
    induction ps using Point.joined.induct with
    | case1 i j ps ih =>
      rw [Point.joined, List.flatMap_cons, List.flatMap_cons, List.flatMap_cons, ih,
        quotePoint_pairChar, List.append_assoc]
    | case2 p ps hpair ih => rw [Point.joined.eq_2 p ps hpair, List.flatMap_cons,
        List.flatMap_cons, ih]
    | case3 => rfl
  unfold Json.quote WideText.joined
  rw [hpoints]

theorem encodeRecord_joined (r : Record) : encodeRecord r.joined = encodeRecord r := by
  simp only [encodeRecord, encodeMember, Record.joined, quote_joined]

/-- A rest of no time ends where it starts. -/
theorem hasEnd_of_no_rest {p : Periods} (h : p.rest = Duration.zero) (t : Instant) :
    p.hasEnd t = true := by
  have hsame : t.add? p.rest = some t := by
    unfold Instant.add?
    rw [h, Instant.ofMicros?_eq_some]
    exact Int.add_zero _
  simp [Periods.hasEnd, hsame]

/-- A text tells all of its records, also those that are not read, but for the halves that it
joins. -/
theorem encode_eq_iff {rs rs' : List Record} :
    encode rs = encode rs' ↔ rs.map Record.joined = rs'.map Record.joined := by
  have hjoined (rs : List Record) : encode (rs.map Record.joined) = encode rs := by
    unfold encode
    rw [List.map_map]
    simp only [Function.comp_def, encodeRecord_joined]
  have hread (rs : List Record) :
      decode ⟨Duration.zero, Duration.zero⟩ .standard (some (encode rs)) = .ok (rs.map Record.joined) := by
    rw [decode_encode_filter, List.filter_eq_self.mpr fun r _ => hasEnd_of_no_rest rfl r.shown]
  constructor
  · intro hsame
    have hboth := hread rs
    rw [hsame, hread rs'] at hboth
    exact (Except.ok.inj hboth).symm
  · intro hsame
    rw [← hjoined rs, hsame, hjoined rs']

/-! ## What is read back -/

/-- Just those records read back that have an end and no halves to join. -/
theorem decode_encode_iff (p : Periods) (room : Room) (rs : List Record) :
    decode p room (some (encode rs)) = .ok rs ↔ ∀ r ∈ rs, p.ReadsBack r := by
  refine ⟨?_, fun hback => decode_encode hback room⟩
  intro hread
  rw [decode_encode_filter] at hread
  have hsame := Except.ok.inj hread
  have hall : rs.filter (fun r => p.hasEnd r.shown) = rs := by
    apply List.filter_sublist.eq_of_length
    rw [← List.length_map Record.joined, hsame]
  rw [hall] at hsame
  intro r hr
  refine ⟨List.filter_eq_self.mp hall r hr, ?_⟩
  have hsame' : rs.map Record.joined = rs.map id := by rw [hsame, List.map_id]
  exact List.map_inj_left.mp hsame' r hr

/-- The text that a store would write for the records of the text. -/
def rewritten (p : Periods) (room : Room) (text : Option String) : Except Failure String :=
  (decode p room text).map encode

theorem rewritten_encode {p : Periods} {room : Room} {text : Option String} {rs : List Record}
    (h : decode p room text = .ok rs) :
    decode p room (some (encode rs)) = .ok rs ∧
      rewritten p room (some (encode rs)) = .ok (encode rs) := by
  have hread : decode p room (some (encode rs)) = .ok rs :=
    decode_encode (readsBack_of_decode h) room
  refine ⟨hread, ?_⟩
  unfold rewritten
  rw [hread]
  rfl

/-- What a store saves is read back from the text, record for record and in the same order,
less the records whose rest has no end and with the halves joined in the names. So a store
that forgets its cache finds the records again just when all of them have an end and no
halves to join. What is read from any text at all is read again from the text that is
written for it, and that text is written for itself. -/
theorem written_texts_read_back (p : Periods) :
    (∀ (s : Store) (rs : List Record), s.periods = p →
      decode p s.room (s.save rs).text =
          .ok ((rs.filter fun r => p.hasEnd r.shown).map Record.joined) ∧
        ((s.save rs).invalidate.records = .ok (rs, s.save rs) ↔ ∀ r ∈ rs, p.ReadsBack r)) ∧
      (∀ (room : Room) (text : Option String) (rs : List Record), decode p room text = .ok rs →
        decode p room (some (encode rs)) = .ok rs ∧
          rewritten p room (some (encode rs)) = .ok (encode rs)) ∧
      ∀ rs rs', encode rs = encode rs' ↔ rs.map Record.joined = rs'.map Record.joined := by
  refine ⟨?_, fun room text rs => rewritten_encode, fun rs rs' => encode_eq_iff⟩
  rintro s rs rfl
  refine ⟨decode_encode_filter s.periods s.room rs, ?_⟩
  rw [← decode_encode_iff s.periods s.room]
  unfold Store.invalidate Store.save Store.records
  dsimp only
  cases decode s.periods s.room (some (encode rs)) with
  | error f => simp
  | ok rs' => simp [eq_comm]

/-- A quote, a backslash, a line break and a character past 16 bits in one name, half of such
a character in the other, and the second microsecond of 1970. -/
def oddRecord : Record where
  templateId := ("\"\\\n" ++ String.singleton (Point.pairChar 0x3D 0x200) : String)
  childId := ⟨[.high 0x3D]⟩
  shown := Instant.epoch.shift ⟨1⟩

/-- The two halves of the character in one name, side by side. -/
def splitRecord : Record := { oddRecord with templateId := ⟨[.high 0x3D, .low 0x200]⟩ }

/-- The odd record reads back also where it stands twice, and the split one does not. -/
example : Periods.standard.ReadsBack oddRecord ∧ ¬ Periods.standard.ReadsBack splitRecord :=
  ⟨⟨by decide +kernel, by decide +kernel⟩, fun h => absurd h.joined (by decide +kernel)⟩

end MomentInsights.Cooldown
