/-
  File:      OpenerPolicy/Proofs/Text/Ascii.lean
  Subject:   ASCII TEXT IS ITS OWN BYTES.

  * `utf8Bytes_ascii` -- one byte for each character, below 128;
  * **`decode_utf8Bytes`** -- reading the bytes of ASCII text gives the text;
  * `unifyLineEnds_of_forall` -- without a carriage return no end of line is changed.
-/
import OpenerPolicy.Proofs.Text.Utf8

namespace OpenerPolicy.Text

/-- The byte of an ASCII character. -/
def asciiByte (c : Char) : UInt8 := UInt8.ofNat c.toNat

theorem toNat_asciiByte {c : Char} (h : c.toNat < 0x80) : (asciiByte c).toNat = c.toNat := by
  rw [asciiByte, UInt8.toNat_ofNat']
  exact Nat.mod_eq_of_lt (Nat.lt_trans h (by decide))

theorem utf8EncodeChar_ascii {c : Char} (h : c.toNat < 0x80) :
    String.utf8EncodeChar c = [asciiByte c] :=
  if_pos (Nat.le_of_lt_succ h)

/-- **One byte for each character.** -/
theorem utf8Bytes_ascii {s : String} (h : ∀ c ∈ s.toList, c.toNat < 0x80) :
    utf8Bytes s = s.toList.map asciiByte := by
  have hchars : ∀ l : List Char, (∀ c ∈ l, c.toNat < 0x80) →
      l.flatMap String.utf8EncodeChar = l.map asciiByte := by
    intro l hl
    induction l with
    | nil => rfl
    | cons c rest ih =>
      obtain ⟨hc, hrest⟩ := List.forall_mem_cons.1 hl
      rw [List.flatMap_cons, utf8EncodeChar_ascii hc, ih hrest]
      rfl
  exact hchars s.toList h

/-- **Reading the bytes of ASCII text gives the text**, and no byte has its highest bit set. -/
theorem decode_utf8Bytes {s : String} (h : ∀ c ∈ s.toList, c.toNat < 0x80) :
    (∀ b ∈ utf8Bytes s, b.toNat < 0x80) ∧ Encoding.utf8.decode (utf8Bytes s) = .ok (points s) := by
  have hbytes : ∀ b ∈ utf8Bytes s, b.toNat < 0x80 := by
    rw [utf8Bytes_ascii h]
    intro b hb
    obtain ⟨c, hc, rfl⟩ := List.mem_map.1 hb
    rw [toNat_asciiByte (h c hc)]
    exact h c hc
  exact ⟨hbytes, (decode_utf8_eq_ok_iff _ _).2 ⟨s, rfl, rfl⟩⟩

/-- Without a carriage return no end of line is changed. -/
theorem unifyLineEnds_of_forall {l : List Nat} (h : ∀ c ∈ l, c ≠ 0x0D) : unifyLineEnds l = l := by
  induction l with
  | nil => rfl
  | cons c rest ih =>
    obtain ⟨hc, hrest⟩ := List.forall_mem_cons.1 h
    rw [unifyLineEnds, ih hrest]
    · exact fun _ hreturn _ => hc hreturn
    · exact hc

end OpenerPolicy.Text
