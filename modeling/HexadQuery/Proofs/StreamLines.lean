/-
# Lines of texts and of streams

A stream is cut at newline bytes, before anything is known about its encoding.  For a stream that
is UTF-8 this comes to the same as cutting the text: a byte below 0x80 is a character by itself
(`eq_of_mem_utf8EncodeChar`), so neither a newline byte nor a carriage return can be part of
another character, and every line of a text has a text (`isSome_of_mem_textLines`).

Two more facts are what framing rests on.  A stream with a newline at the end of its first part has
the lines of the one part and then those of the other (`textLines_append`), and texts without
control characters that are written as lines are read back as lines (`textLines_written`).

`serve` of the bridge reads its input by the lines of a buffered reader, and these are the rules of
one: a line ends at a newline byte, which is not part of it, and neither is a carriage return just
ahead of it; the last line may have no newline; and a line that is no UTF-8 is an error by itself,
whatever the other lines are.
-/
import HexadQuery.Text.Lines
import Mathlib

namespace HexadQuery.Text

/-! ## 1. The bytes of a text

The encoding of a text as a list of bytes, character by character, so that inductions on the text
are inductions on its bytes. -/

/-- The UTF-8 bytes of characters. -/
def encode (cs : List Char) : List UInt8 := cs.flatMap String.utf8EncodeChar

/-- The UTF-8 bytes of a text. -/
def bytes (s : String) : List UInt8 := s.toUTF8.data.toList

/-- The bytes of a text are those of its characters. -/
theorem bytes_eq (s : String) : bytes s = encode s.toList := by
  have hencode : s.toByteArray = s.toList.utf8Encode := String.utf8Encode_toList.symm
  rw [bytes, String.toUTF8_eq_toByteArray, hencode, List.utf8Encode, List.data_toByteArray,
    List.toList_toArray, encode]

/-- Decoding undoes encoding, and nothing else is decoded. -/
theorem decode?_eq_some {b : List UInt8} {s : String} : decode? b = some s ↔ b = bytes s := by
  unfold decode? String.fromUTF8?
  constructor
  · intro h
    split at h
    · obtain rfl := Option.some.inj h
      rfl
    · exact absurd h (by simp)
  · rintro rfl
    have harray : (⟨(bytes s).toArray⟩ : ByteArray) = s.toByteArray := by
      rw [bytes, String.toUTF8_eq_toByteArray, Array.toArray_toList]
    rw [harray, dif_pos s.isValidUTF8]
    rfl

/-- What was encoded is decoded. -/
theorem decode?_encode (cs : List Char) : decode? (encode cs) = some (String.ofList cs) := by
  rw [decode?_eq_some, bytes_eq, String.toList_ofList]

/-- **A byte below 0x80 is a character by itself.**  All the bytes of a longer encoding are
at least 0x80, which is why a stream of bytes may be cut into lines before it is decoded. -/
theorem eq_of_mem_utf8EncodeChar {c : Char} {b : UInt8} (hb : b.toNat < 0x80)
    (h : b ∈ String.utf8EncodeChar c) : c.toNat = b.toNat ∧ String.utf8EncodeChar c = [b] := by
  have hlarge : ∀ n k : Nat, 0x80 ≤ k → n + k < 256 → b ≠ UInt8.ofNat (n + k) := by
    rintro n k hk hlt rfl
    rw [UInt8.toNat_ofNat', Nat.mod_eq_of_lt hlt] at hb
    omega
  unfold String.utf8EncodeChar at h ⊢
  simp only at h ⊢
  split at h
  · next hle =>
    obtain rfl := List.mem_singleton.mp h
    have hsmall : c.toNat < 256 := by
      change c.val.toNat < 256
      omega
    refine ⟨?_, by rw [if_pos hle]⟩
    rw [UInt8.toNat_ofNat']
    exact (Nat.mod_eq_of_lt hsmall).symm
  exfalso
  split at h
  · simp only [List.mem_cons, List.not_mem_nil, or_false] at h
    rcases h with h | h
    · exact hlarge _ 0xc0 (by omega) (by omega) h
    · exact hlarge _ 0x80 (by omega) (by omega) h
  split at h
  · simp only [List.mem_cons, List.not_mem_nil, or_false] at h
    rcases h with h | h | h
    · exact hlarge _ 0xe0 (by omega) (by omega) h
    · exact hlarge _ 0x80 (by omega) (by omega) h
    · exact hlarge _ 0x80 (by omega) (by omega) h
  · simp only [List.mem_cons, List.not_mem_nil, or_false] at h
    rcases h with h | h | h | h
    · exact hlarge _ 0xf0 (by omega) (by omega) h
    · exact hlarge _ 0x80 (by omega) (by omega) h
    · exact hlarge _ 0x80 (by omega) (by omega) h
    · exact hlarge _ 0x80 (by omega) (by omega) h

/-! ## 2. Cutting bytes

Lines of a stream, each with a mark that tells whether a newline has ended it. -/

/-- A stream with a byte has a line. -/
theorem byteLines_ne_nil {b : UInt8} {bs : List UInt8} : byteLines (b :: bs) ≠ [] := by
  unfold byteLines
  split
  · simp
  · split <;> simp

/-- **A newline parts lines**: those behind it do not depend on what is ahead. -/
theorem byteLines_append (rest : List UInt8) : ∀ front : List UInt8,
    byteLines (front ++ 0x0A :: rest) = byteLines (front ++ [0x0A]) ++ byteLines rest
  | [] => rfl
  | b :: front => by
    have ih := byteLines_append rest front
    rw [List.cons_append, List.cons_append, byteLines, byteLines, ih]
    split
    · rfl
    · cases hfront : byteLines (front ++ [0x0A]) with
      | nil =>
        obtain ⟨c, cs, hcs⟩ := List.exists_cons_of_ne_nil
          (by simp : front ++ [(0x0A : UInt8)] ≠ [])
        exact absurd (hcs ▸ hfront) byteLines_ne_nil
      | cons first more => rfl

/-- Bytes without a newline belong to the first line after them. -/
theorem byteLines_append_solid (rest : List UInt8) : ∀ {line : List UInt8}, line ≠ [] →
    (0x0A : UInt8) ∉ line → byteLines (line ++ rest) =
      match byteLines rest with
      | (first, ended) :: more => (line ++ first, ended) :: more
      | [] => [(line, false)]
  | [], hne, _ => absurd rfl hne
  | [b], _, h => by
    have hb : (b == 0x0A) = false := by
      rw [beq_eq_false_iff_ne]
      rintro rfl
      exact h List.mem_cons_self
    rw [List.singleton_append, byteLines, hb]
    cases byteLines rest <;> rfl
  | b :: c :: line, _, h => by
    have hb : (b == 0x0A) = false := by
      rw [beq_eq_false_iff_ne]
      rintro rfl
      exact h List.mem_cons_self
    have ih := byteLines_append_solid rest (List.cons_ne_nil c line)
      fun hc => h (List.mem_cons_of_mem _ hc)
    rw [List.cons_append, byteLines, hb, ih]
    cases byteLines rest <;> rfl

/-- A line and the newline that ends it. -/
theorem byteLines_line {line : List UInt8} (h : (0x0A : UInt8) ∉ line) (rest : List UInt8) :
    byteLines (line ++ 0x0A :: rest) = (line, true) :: byteLines rest := by
  cases line with
  | nil => rfl
  | cons b line =>
    rw [byteLines_append_solid _ (List.cons_ne_nil b line) h, byteLines, if_pos (by rfl)]
    simp

/-! ## 3. Lines as texts

What is cut off is encoded text if the stream is. -/

/-- **A stream whose first part ends in a newline has the lines of its parts.**  A line that is
no text stays one, and the lines ahead of it are the same. -/
theorem textLines_append {front : List UInt8} (h : front.getLast? = some 0x0A)
    (rest : List UInt8) : textLines (front ++ rest) = textLines front ++ textLines rest := by
  obtain ⟨ahead, rfl⟩ := List.getLast?_eq_some_iff.mp h
  have hcut := byteLines_append rest ahead
  rw [textLines, List.append_assoc, List.singleton_append, hcut, List.map_append]
  rfl

/-- The lines of a text are encoded texts. -/
theorem exists_encode_of_mem_byteLines : ∀ {cs : List Char}, ∀ line ∈ byteLines (encode cs),
    ∃ ds, line.1 = encode ds
  | [], line, h => absurd h (List.not_mem_nil)
  | c :: cs, line, h => by
    have ih := @exists_encode_of_mem_byteLines cs
    rw [encode, List.flatMap_cons] at h
    -- the byte of a line feed is no part of a longer encoding, so lines end between characters
    by_cases hc : (0x0A : UInt8) ∈ String.utf8EncodeChar c
    · rw [(eq_of_mem_utf8EncodeChar (by decide) hc).2, List.singleton_append, byteLines,
        if_pos (by rfl)] at h
      rcases List.mem_cons.mp h with rfl | h
      · exact ⟨[], rfl⟩
      · exact ih line h
    · rw [byteLines_append_solid _ String.utf8EncodeChar_ne_nil hc] at h
      cases hrest : byteLines (encode cs) with
      | nil =>
        rw [encode] at hrest
        rw [hrest] at h
        obtain rfl := List.mem_singleton.mp h
        exact ⟨[c], by simp [encode]⟩
      | cons first more =>
        obtain ⟨first, ended⟩ := first
        rw [hrest] at ih
        rw [encode] at hrest
        rw [hrest] at h
        rcases List.mem_cons.mp h with rfl | h
        · obtain ⟨ds, hds⟩ := ih (first, ended) List.mem_cons_self
          exact ⟨c :: ds, by rw [encode, List.flatMap_cons, ← encode, ← hds]⟩
        · exact ih line (List.mem_cons_of_mem _ h)

/-- A carriage return that is dropped is a character. -/
theorem exists_encode_withoutReturn (ds : List Char) (ended : Bool) :
    ∃ es, withoutReturn (encode ds, ended) = encode es := by
  unfold withoutReturn
  split
  · next line heq =>
    obtain rfl : encode ds = line := (Prod.mk.inj heq).1
    split
    · next hreturn =>
      rw [beq_iff_eq] at hreturn
      cases ds using List.reverseRecOn with
      | nil => exact absurd hreturn (by simp [encode])
      | append_singleton es d =>
        have hsplit : encode (es ++ [d]) = encode es ++ String.utf8EncodeChar d := by
          simp [encode]
        have hlast : (String.utf8EncodeChar d).getLast? = some 0x0D := by
          rw [hsplit, List.getLast?_append_of_ne_nil _ String.utf8EncodeChar_ne_nil] at hreturn
          exact hreturn
        have hmem := List.mem_of_mem_getLast? hlast
        refine ⟨es, ?_⟩
        rw [hsplit, (eq_of_mem_utf8EncodeChar (by decide) hmem).2, List.dropLast_concat]
    · exact ⟨ds, rfl⟩
  · next line heq =>
    obtain rfl : encode ds = line := (Prod.mk.inj heq).1
    exact ⟨ds, rfl⟩

/-- **Every line of a text has a text.** -/
theorem isSome_of_mem_textLines {stream : List UInt8} (h : (decode? stream).isSome) :
    ∀ line ∈ textLines stream, line.isSome := by
  obtain ⟨s, hs⟩ := Option.isSome_iff_exists.mp h
  obtain rfl := decode?_eq_some.mp hs
  intro line hline
  obtain ⟨⟨bs, ended⟩, hbs, rfl⟩ := List.mem_map.mp hline
  rw [bytes_eq] at hbs
  obtain ⟨ds, rfl⟩ : ∃ ds, bs = encode ds := exists_encode_of_mem_byteLines _ hbs
  obtain ⟨es, hes⟩ := exists_encode_withoutReturn ds ended
  rw [hes, decode?_encode]
  rfl

/-! ## 4. Lines that were written

The other direction: lines that a program writes, and the stream they make. -/

/-- Each text with a newline behind it. -/
def written (lines : List String) : String := String.join (lines.map (· ++ "\n"))

/-- Lines are written one behind the other. -/
theorem written_append (as bs : List String) : written (as ++ bs) = written as ++ written bs := by
  rw [written, List.map_append, String.join_append]
  rfl

/-- A byte below 0x80 is in the bytes of a text only as a character of it. -/
theorem mem_of_mem_encode {cs : List Char} {b : UInt8} (hb : b.toNat < 0x80) (h : b ∈ encode cs) :
    Char.ofNat b.toNat ∈ cs := by
  obtain ⟨c, hc, hmem⟩ := List.mem_flatMap.mp h
  rw [← (eq_of_mem_utf8EncodeChar hb hmem).1, Char.ofNat_toNat]
  exact hc

/-- **Texts without control characters that are written as lines are read back as lines.**  No
control byte is written but the line feed at the end of each line. -/
theorem textLines_written : ∀ {lines : List String},
    (∀ line ∈ lines, ∀ c ∈ line.toList, 0x20 ≤ c.toNat) →
      textLines (bytes (written lines)) = lines.map some
  | [], _ => rfl
  | line :: lines, h => by
    have hcontrol : ∀ b : UInt8, b.toNat < 0x20 → b ∉ encode line.toList := by
      intro b hb hmem
      have hchar := h line List.mem_cons_self _ (mem_of_mem_encode (by omega) hmem)
      have hvalid : b.toNat.isValidChar := Or.inl (by omega)
      rw [Char.toNat_ofNat, if_pos hvalid] at hchar
      omega
    have hbytes : bytes (written (line :: lines)) =
        encode line.toList ++ 0x0A :: bytes (written lines) := by
      rw [bytes_eq, bytes_eq]
      simp [written, encode, List.flatMap_append]
      rfl
    have hreturn : (encode line.toList).getLast? ≠ some 0x0D :=
      fun hlast => hcontrol 0x0D (by decide) (List.mem_of_mem_getLast? hlast)
    have ih := textLines_written fun l hl => h l (List.mem_cons_of_mem _ hl)
    rw [textLines, hbytes, byteLines_line (hcontrol 0x0A (by decide)), List.map_cons]
    rw [textLines] at ih
    rw [ih, withoutReturn, if_neg (by simpa using hreturn), decode?_encode, String.ofList_toList,
      List.map_cons]

end HexadQuery.Text
