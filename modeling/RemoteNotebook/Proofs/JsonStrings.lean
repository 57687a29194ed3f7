import RemoteNotebook.Json.Reader
import RemoteNotebook.Proofs.Utf8

/-! Strings in JSON texts, and words that stand for values. A character stands for itself, or is
written as an escape; a string is read from the texts of its characters one after the other, and
from no others. -/
namespace RemoteNotebook.Json

/-- A reader takes a value from the start of a text and leaves the rest of it. -/
def Reads {α : Type} (reader : Reader α) (cs : List Char) (v : α) (rest : List Char) : Prop :=
  ∃ x, reader cs = some x ∧ x.value = v ∧ x.rest = rest

inductive HexText : Nat → List Char → Prop
  | digits {a b c d : Char} {i j k l : Nat} (ha : Text.hexValue? a = some i)
    (hb : Text.hexValue? b = some j) (hc : Text.hexValue? c = some k)
    (hd : Text.hexValue? d = some l) :
    HexText (i * 0x1000 + j * 0x100 + k * 0x10 + l) [a, b, c, d]

def shortEscapes : List (Char × Char) :=
  [('"', '"'), ('\\', '\\'), ('/', '/'), ('b', '\x08'), ('f', '\x0c'), ('n', '\n'), ('r', '\r'),
    ('t', '\t')]

/-- What stands behind a backslash and a `u`: the number of a character, or the two halves of a
surrogate pair. -/
inductive UnicodeText : Char → List Char → Prop
  | one {c : Char} {ds : List Char} (h : HexText c.toNat ds) : UnicodeText c ds
  | pair {c : Char} {high low : Nat} {ds es : List Char} (hhigh : HexText high ds)
    (hlow : HexText low es) (hhigh' : 0xD800 ≤ high ∧ high ≤ 0xDBFF)
    (hlow' : 0xDC00 ≤ low ∧ low ≤ 0xDFFF)
    (hc : c.toNat = (high - 0xD800) * 0x400 + (low - 0xDC00) + 0x10000) :
    UnicodeText c (ds ++ '\\' :: 'u' :: es)

inductive CharText : Char → List Char → Prop
  | plain {c : Char} (hquote : c ≠ '"') (hslash : c ≠ '\\') (h : 0x20 ≤ c.toNat) : CharText c [c]
  | short {letter c : Char} (h : (letter, c) ∈ shortEscapes) : CharText c ['\\', letter]
  | unicode {c : Char} {text : List Char} (h : UnicodeText c text) :
    CharText c ('\\' :: 'u' :: text)

inductive StringText : List Char → List Char → Prop
  | nil : StringText [] []
  | cons {c : Char} {cs text body : List Char} (hc : CharText c text) (hcs : StringText cs body) :
    StringText (c :: cs) (text ++ body)

variable {cs rest text : List Char} {c : Char} {n : Nat}

section Found

variable {α β : Type} {ds : List Char}

@[simp] theorem Found.map_value (f : α → β) (x : Found α cs) : (x.map f).value = f x.value := rfl

@[simp] theorem Found.map_rest (f : α → β) (x : Found α cs) : (x.map f).rest = x.rest := rfl

@[simp] theorem Found.widen_value (x : Found α ds) (h : ds.length ≤ cs.length) :
    (x.widen h).value = x.value := rfl

@[simp] theorem Found.widen_rest (x : Found α ds) (h : ds.length ≤ cs.length) :
    (x.widen h).rest = x.rest := rfl

end Found

theorem Reads.intro {α : Type} {reader : Reader α} {x : Found α cs} (h : reader cs = some x) :
    Reads reader cs x.value x.rest :=
  ⟨x, h, rfl, rfl⟩

theorem Reads.map {α β : Type} {reader : Reader α} {v : α} (h : Reads reader cs v rest)
    (f : α → β) : Reads (fun cs => (reader cs).map (·.map f)) cs (f v) rest := by
  obtain ⟨x, hx, rfl, rfl⟩ := h
  exact ⟨x.map f, Option.map_eq_some_iff.mpr ⟨x, hx, rfl⟩, rfl, rfl⟩

theorem Reads.rest_lt {α : Type} {reader : Reader α} {v : α} (h : Reads reader cs v rest) :
    rest.length < cs.length := by
  obtain ⟨x, -, -, rfl⟩ := h
  exact x.shorter

theorem hexValue?_lt (h : Text.hexValue? c = some n) : n < 0x10 := by
  simp only [Text.hexValue?, Char.le_def, UInt32.le_iff_toNat_le] at h
  change (if 0x30 ≤ c.toNat ∧ c.toNat ≤ 0x39 then _ else
    if 0x61 ≤ c.toNat ∧ c.toNat ≤ 0x66 then _ else
    if 0x41 ≤ c.toNat ∧ c.toNat ≤ 0x46 then _ else _) = _ at h
  grind

theorem HexText.lt (h : HexText n text) : n < 0x10000 := by
  obtain ⟨ha, hb, hc, hd⟩ := h
  have := hexValue?_lt ha
  have := hexValue?_lt hb
  have := hexValue?_lt hc
  have := hexValue?_lt hd
  omega

theorem reads_hex4_iff : Reads hex4 cs n rest ↔ ∃ ds, cs = ds ++ rest ∧ HexText n ds := by
  constructor
  · rintro ⟨x, hx, rfl, rfl⟩
    unfold hex4 at hx
    split at hx
    · split at hx
      · next ha hb hc hd =>
        cases hx
        exact ⟨_, rfl, .digits ha hb hc hd⟩
      · cases hx
    · cases hx
  · rintro ⟨ds, rfl, ⟨ha, hb, hc, hd⟩⟩
    refine ⟨⟨_, rest, by simp; omega⟩, ?_, rfl, rfl⟩
    simp [hex4, ha, hb, hc, hd]

theorem reads_lowSurrogate_iff : Reads lowSurrogate cs n rest ↔
    ∃ ds, cs = '\\' :: 'u' :: (ds ++ rest) ∧ HexText n ds ∧ 0xDC00 ≤ n ∧ n ≤ 0xDFFF := by
  constructor
  · rintro ⟨x, hx, rfl, rfl⟩
    unfold lowSurrogate at hx
    split at hx
    · split at hx
      next y hy =>
        split at hx
        · next hlow =>
          cases hx
          -- What is found carries the text that it was found in, so the text keeps its name.
          obtain ⟨ds, hcs, hds⟩ := reads_hex4_iff.mp (.intro hy)
          exact ⟨ds, congrArg ('\\' :: 'u' :: ·) hcs, hds, hlow⟩
        · cases hx
      · cases hx
    · cases hx
  · rintro ⟨ds, rfl, hds, hlow⟩
    obtain ⟨x, hx, rfl, hrest⟩ := reads_hex4_iff.mpr ⟨ds, (rfl : _ = ds ++ rest), hds⟩
    refine ⟨x.widen (by simp only [List.length_cons]; omega), ?_, rfl, hrest⟩
    simp [lowSurrogate, hx, hlow]

theorem toNat_ofSurrogates {high low : Nat} (hhigh : 0xD800 ≤ high ∧ high ≤ 0xDBFF)
    (hlow : 0xDC00 ≤ low ∧ low ≤ 0xDFFF) :
    (ofSurrogates high low).toNat = (high - 0xD800) * 0x400 + (low - 0xDC00) + 0x10000 := by
  refine Text.Utf8.toNat_ofNat ?_
  unfold Nat.isValidChar
  omega

theorem reads_unicodeEscape_iff : Reads unicodeEscape cs c rest ↔
    ∃ text, cs = text ++ rest ∧ UnicodeText c text := by
  constructor
  · rintro ⟨x, hx, rfl, rfl⟩
    unfold unicodeEscape at hx
    split at hx
    · cases hx
    next y hy =>
      obtain ⟨ds, hcs, hds⟩ := reads_hex4_iff.mp (.intro hy)
      have hlt := hds.lt
      split at hx
      next hhigh =>
        split at hx
        next z hz =>
          obtain rfl := Option.some.inj hx
          obtain ⟨es, hrest, hes, hlow⟩ := reads_lowSurrogate_iff.mp (.intro hz)
          refine ⟨ds ++ '\\' :: 'u' :: es, by simpa [hrest] using hcs, .pair hds hes hhigh hlow ?_⟩
          rw [Found.widen_value, Found.map_value, toNat_ofSurrogates hhigh hlow]
        · cases hx
      next hhigh =>
        split at hx
        · cases hx
        next hlow =>
          cases hx
          have hvalid : y.value.isValidChar := by
            unfold Nat.isValidChar
            omega
          exact ⟨ds, hcs, .one (by rwa [Found.map, Text.Utf8.toNat_ofNat hvalid])⟩
  · rintro ⟨text, rfl, hds | ⟨hds, hes, hhigh, hlow, hc⟩⟩
    · obtain ⟨x, hx, hvalue, hrest⟩ := reads_hex4_iff.mpr ⟨text, (rfl : _ = text ++ rest), hds⟩
      have hvalid : c.toNat.isValidChar := c.valid
      unfold Nat.isValidChar at hvalid
      refine ⟨x.map Char.ofNat, ?_, ?_, hrest⟩
      · simp only [unicodeEscape, hx, hvalue]
        rw [if_neg (by omega), if_neg (by omega)]
      · rw [Found.map, hvalue, Char.ofNat_toNat]
    · next high low ds es =>
      have hpair : Reads lowSurrogate ('\\' :: 'u' :: (es ++ rest)) low rest :=
        reads_lowSurrogate_iff.mpr ⟨es, rfl, hes, hlow⟩
      rw [List.append_assoc, List.cons_append, List.cons_append]
      obtain ⟨x, hx, rfl, hrest⟩ :=
        reads_hex4_iff.mpr ⟨ds, (rfl : _ = ds ++ '\\' :: 'u' :: (es ++ rest)), hds⟩
      rw [← hrest] at hpair
      obtain ⟨y, hy, rfl, hend⟩ := hpair
      refine ⟨(y.map (ofSurrogates x.value)).widen (Nat.le_of_lt x.shorter), ?_, ?_, hend⟩
      · simp only [unicodeEscape, hx, if_pos hhigh, hy]
      · rw [Found.widen, Found.map, ofSurrogates, ← hc, Char.ofNat_toNat]

theorem mem_shortEscapes_iff {letter : Char} :
    (letter, c) ∈ shortEscapes ↔ shortEscape? letter = some c := by
  unfold shortEscape?
  split <;> simp_all [shortEscapes, eq_comm]

theorem reads_escapeWith_iff : Reads (escapeWith unicodeEscape) cs c rest ↔
    ∃ text, cs = text ++ rest ∧ CharText c ('\\' :: text) := by
  constructor
  · rintro ⟨x, hx, rfl, rfl⟩
    unfold escapeWith at hx
    split at hx
    · cases hx
    next letter cs =>
      split at hx
      next hletter =>
        obtain ⟨y, hy, rfl⟩ := Option.map_eq_some_iff.mp hx
        obtain ⟨text, hcs, htext⟩ := reads_unicodeEscape_iff.mp (.intro hy)
        subst hletter
        exact ⟨'u' :: text, congrArg ('u' :: ·) hcs, .unicode htext⟩
      next =>
        obtain ⟨e, he, rfl⟩ := Option.map_eq_some_iff.mp hx
        exact ⟨[letter], rfl, .short (mem_shortEscapes_iff.mpr he)⟩
  · rintro ⟨text, rfl, hchar⟩
    cases hchar with
    | plain _ hslash => exact absurd rfl hslash
    | @short letter _ h =>
      have hletter : letter ≠ 'u' := by
        rintro rfl
        exact absurd (mem_shortEscapes_iff.mp h) (by simp [shortEscape?])
      refine ⟨⟨c, rest, by simp⟩, ?_, rfl, rfl⟩
      simp [escapeWith, hletter, mem_shortEscapes_iff.mp h]
    | @unicode _ text h =>
      obtain ⟨x, hx, hvalue, hrest⟩ :=
        reads_unicodeEscape_iff.mpr ⟨text, (rfl : _ = text ++ rest), h⟩
      refine ⟨x.widen (by simp), ?_, hvalue, hrest⟩
      simp [escapeWith, hx]

/-- What the reader of strings does with one more character in front. -/
theorem reads_stringWith_cons_iff {unicode : Reader Char} :
    Reads (stringWith unicode) (c :: cs) text rest ↔
      c = '"' ∧ text = [] ∧ rest = cs ∨
      c = '\\' ∧ (∃ e mid t, Reads (escapeWith unicode) cs e mid ∧
        Reads (stringWith unicode) mid t rest ∧ text = e :: t) ∨
      (c ≠ '"' ∧ c ≠ '\\' ∧ 0x20 ≤ c.toNat) ∧
        ∃ t, Reads (stringWith unicode) cs t rest ∧ text = c :: t := by
  by_cases hquote : c = '"'
  · subst hquote
    rw [Reads, stringWith]
    simp [eq_comm]
  by_cases hslash : c = '\\'
  · subst hslash
    rw [Reads, stringWith]
    constructor
    · rintro ⟨x, hx, rfl, rfl⟩
      rw [if_neg (by decide), if_pos rfl] at hx
      split at hx
      · cases hx
      next e he =>
        split at hx
        · cases hx
        next t ht =>
          cases hx
          exact .inr (.inl ⟨rfl, _, _, _, .intro he, .intro ht, rfl⟩)
    · rintro (⟨h, -⟩ | ⟨-, e, mid, t, ⟨y, hy, rfl, rfl⟩, ⟨z, hz, rfl, rfl⟩, rfl⟩ | ⟨⟨-, h, -⟩, -⟩)
      · cases hquote h
      · simp [hy, hz]
      · cases h rfl
  · rw [Reads, stringWith]
    constructor
    · rintro ⟨x, hx, rfl, rfl⟩
      rw [if_neg hquote, if_neg hslash] at hx
      split at hx
      · cases hx
      next hc =>
        split at hx
        · cases hx
        next t ht =>
          cases hx
          exact .inr (.inr ⟨⟨hquote, hslash, Nat.not_lt.mp hc⟩, _, .intro ht, rfl⟩)
    · rintro (⟨h, -⟩ | ⟨h, -⟩ | ⟨⟨-, -, h⟩, t, ⟨y, hy, rfl, rfl⟩, rfl⟩)
      · cases hquote h
      · cases hslash h
      · simp [hquote, hslash, Nat.not_lt.mpr h, hy]

theorem stringText_of_reads (h : Reads (stringWith unicodeEscape) cs text rest) :
    ∃ body, cs = body ++ '"' :: rest ∧ StringText text body := by
  -- An escape takes several characters off at once, so the induction is on the length.
  induction hn : cs.length using Nat.strongRecOn generalizing cs text with
  | ind n ih =>
    subst hn
    cases cs with
    | nil =>
      obtain ⟨x, hx, -⟩ := h
      rw [stringWith] at hx
      cases hx
    | cons c cs =>
      obtain ⟨rfl, rfl, rfl⟩ | ⟨rfl, e, mid, t, he, ht, rfl⟩ | ⟨⟨hquote, hslash, hc⟩, t, ht, rfl⟩ :=
        reads_stringWith_cons_iff.mp h
      · exact ⟨[], rfl, .nil⟩
      · obtain ⟨body, hmid, hbody⟩ := ih mid.length (Nat.lt_succ_of_lt he.rest_lt) ht rfl
        obtain ⟨escape, hcs, hescape⟩ := reads_escapeWith_iff.mp he
        exact ⟨'\\' :: escape ++ body, by simp [hcs, hmid], .cons hescape hbody⟩
      · obtain ⟨body, hcs, hbody⟩ := ih cs.length (Nat.lt_succ_self _) ht rfl
        exact ⟨c :: body, congrArg (c :: ·) hcs, .cons (.plain hquote hslash hc) hbody⟩

theorem StringText.reads {body : List Char} (h : StringText text body) (rest : List Char) :
    Reads (stringWith unicodeEscape) (body ++ '"' :: rest) text rest := by
  induction h with
  | nil => exact reads_stringWith_cons_iff.mpr (.inl ⟨rfl, rfl, rfl⟩)
  | @cons c cs text body hc _ ih =>
    have hescaped {escape : List Char} (h : CharText c ('\\' :: escape)) :
        Reads (stringWith unicodeEscape) ('\\' :: (escape ++ (body ++ '"' :: rest))) (c :: cs)
          rest :=
      have he := reads_escapeWith_iff.mpr ⟨escape, rfl, h⟩
      reads_stringWith_cons_iff.mpr (.inr (.inl ⟨rfl, _, _, _, he, ih, rfl⟩))
    rw [List.append_assoc]
    cases hc with
    | plain hquote hslash h =>
      exact reads_stringWith_cons_iff.mpr (.inr (.inr ⟨⟨hquote, hslash, h⟩, _, ih, rfl⟩))
    | short h => exact hescaped (.short h)
    | unicode h => exact hescaped (.unicode h)

/-- A string is read just from the texts of it, up to the closing quote. -/
theorem reads_string_iff : Reads (stringWith unicodeEscape) cs text rest ↔
    ∃ body, cs = body ++ '"' :: rest ∧ StringText text body := by
  refine ⟨stringText_of_reads, ?_⟩
  rintro ⟨body, rfl, h⟩
  exact h.reads rest

theorem reads_word_iff {v w : Json} (h : text ≠ []) :
    Reads (word text w) cs v rest ↔ v = w ∧ cs = text ++ rest := by
  constructor
  · rintro ⟨x, hx, rfl, rfl⟩
    unfold word at hx
    split at hx
    next hword =>
      cases hx
      obtain ⟨tail, rfl⟩ := List.isPrefixOf_iff_prefix.mp hword.1
      exact ⟨rfl, congrArg (text ++ ·) List.drop_left.symm⟩
    · cases hx
  · rintro ⟨rfl, rfl⟩
    have hpos := List.length_pos_iff.mpr h
    refine ⟨⟨v, (text ++ rest).drop text.length, by simp; omega⟩, ?_, rfl, List.drop_left⟩
    rw [word, dif_pos ⟨List.isPrefixOf_iff_prefix.mpr (List.prefix_append text rest), h⟩]

end RemoteNotebook.Json
