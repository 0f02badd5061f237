import GridQuery.Proofs.Sql.Numeral
import GridQuery.Sql.Dialect

/-!
SQL text as a database splits it up: blanks separate words, numerals, strings, quoted names and
symbols. How a string ends and what a backslash in it does depends on the dialect, and so does the
quote around names.
-/

namespace GridQuery.Sql

open GridQuery.Number

inductive Token where
  /-- A keyword or a bare name. -/
  | word (name : String)
  /-- A name between identifier quotes. -/
  | quoted (name : String)
  /-- A string, decoded. -/
  | text (content : String)
  | numeral (digits : String)
  /-- Punctuation or a comparison. -/
  | symbol (sign : String)
deriving DecidableEq, Repr

/-- Puts a decoded character before what has been read behind it. -/
def pushChar (c : Char) (read : Option (List Char × List Char)) : Option (List Char × List Char) :=
  read.map fun (s, rest) => (c :: s, rest)

/-- Reads a string behind its opening quote. Two quotes stand for one, and a backslash that escapes
for the character behind it. -/
def scanText (escapes : Bool) : List Char → Option (List Char × List Char)
  | [] => none
  | c :: r =>
    if c = '\'' then
      match r with
      | '\'' :: r' => pushChar '\'' (scanText escapes r')
      | _ => some ([], r)
    else if c = '\\' && escapes then
      match r with
      | e :: r' => pushChar e (scanText escapes r')
      | [] => none
    else pushChar c (scanText escapes r)

/-- Reads a name behind its opening quote, up to the next one. -/
def scanQuoted (quote : Char) (cs : List Char) : Option (List Char × List Char) :=
  match cs.dropWhile (· != quote) with
  | [] => none
  | _ :: rest => some (cs.takeWhile (· != quote), rest)

/-- No symbol stands before a longer one that it begins. -/
def symbols : List String :=
  ["!=", "<>", "<=", ">=", "=", "<", ">", "(", ")", ",", ".", "*", ";"]

def scanSymbol (cs : List Char) : Option (String × List Char) :=
  symbols.findSome? fun s => (cs.dropPrefix? s.toList).map fun rest => (s, rest)

/-- The first token of a text that starts with no blank, and what follows it. -/
def scanToken (d : Dialect) : List Char → Option (Token × List Char)
  | [] => none
  | c :: r =>
    if c = '\'' then
      (scanText d.backslashEscapes r).map fun (s, rest) => (.text (String.ofList s), rest)
    else if c = d.identifierQuote then
      (scanQuoted c r).map fun (s, rest) => (.quoted (String.ofList s), rest)
    else if isNameStart c then
      some (.word (String.ofList (c :: r.takeWhile isNamePart)), r.dropWhile isNamePart)
    else
      match scanNumeral (c :: r) with
      | some (ds, rest) => some (.numeral (String.ofList ds), rest)
      | none => (scanSymbol (c :: r)).map fun (s, rest) => (.symbol s, rest)

theorem scanText_length {escapes : Bool} {cs s rest : List Char}
    (h : scanText escapes cs = some (s, rest)) : rest.length < cs.length := by
  fun_induction scanText escapes cs generalizing s rest with
  | case1 => cases h
  | case2 r ih =>
    obtain ⟨⟨s', rest'⟩, hr, heq⟩ := Option.map_eq_some_iff.mp h
    cases heq
    have := ih hr
    simp only [List.length_cons]
    omega
  | case3 r hr =>
    cases h
    exact Nat.lt_succ_self _
  | case4 c hc he e r ih =>
    obtain ⟨⟨s', rest'⟩, hr, heq⟩ := Option.map_eq_some_iff.mp h
    cases heq
    have := ih hr
    simp only [List.length_cons]
    omega
  | case5 => cases h
  | case6 c r hc he ih =>
    obtain ⟨⟨s', rest'⟩, hr, heq⟩ := Option.map_eq_some_iff.mp h
    cases heq
    exact Nat.lt_succ_of_lt (ih hr)

theorem scanQuoted_length {quote : Char} {cs s rest : List Char}
    (h : scanQuoted quote cs = some (s, rest)) : rest.length < cs.length := by
  unfold scanQuoted at h
  split at h
  · cases h
  · next heq =>
    cases h
    have hle := (List.dropWhile_sublist (l := cs) (· != quote)).length_le
    rw [heq, List.length_cons] at hle
    exact hle

theorem ne_empty_of_mem_symbols : ∀ s ∈ symbols, s.toList ≠ [] := by
  decide

theorem scanSymbol_length {cs rest : List Char} {s : String}
    (h : scanSymbol cs = some (s, rest)) : rest.length < cs.length := by
  obtain ⟨s', hs, hmap⟩ := List.exists_of_findSome?_eq_some h
  obtain ⟨rest', hprefix, heq⟩ := Option.map_eq_some_iff.mp hmap
  cases heq
  obtain ⟨w, rfl, hw⟩ := List.dropPrefix?_eq_some_iff.mp hprefix
  have hpos := List.length_pos_iff.mpr (ne_empty_of_mem_symbols s hs)
  rw [eq_of_beq hw, List.length_append]
  omega

theorem scanToken_length {d : Dialect} {cs rest : List Char} {t : Token}
    (h : scanToken d cs = some (t, rest)) : rest.length < cs.length := by
  cases cs with
  | nil => cases h
  | cons c r =>
    simp only [scanToken] at h
    split at h
    · obtain ⟨⟨s, rest'⟩, hs, heq⟩ := Option.map_eq_some_iff.mp h
      cases heq
      exact Nat.lt_succ_of_lt (scanText_length hs)
    · split at h
      · obtain ⟨⟨s, rest'⟩, hs, heq⟩ := Option.map_eq_some_iff.mp h
        cases heq
        exact Nat.lt_succ_of_lt (scanQuoted_length hs)
      · split at h
        · cases h
          exact Nat.lt_succ_of_le (List.dropWhile_sublist _).length_le
        · split at h
          · next heq =>
            cases h
            obtain ⟨happ, hne⟩ := scanNumeral_eq heq
            rw [← happ, List.length_append]
            have := List.length_pos_iff.mpr hne
            omega
          · obtain ⟨⟨s, rest'⟩, hs, heq⟩ := Option.map_eq_some_iff.mp h
            cases heq
            exact scanSymbol_length hs

/-- The tokens of a text; none, if some part of it is no token of the dialect. -/
def lex (d : Dialect) (cs : List Char) : Option (List Token) :=
  match cs with
  | [] => some []
  | c :: r =>
    if c.isWhitespace then lex d r
    else
      match _h : scanToken d (c :: r) with
      | none => none
      | some (t, rest) => (lex d rest).map (t :: ·)
termination_by cs.length
decreasing_by
  · exact Nat.lt_succ_self _
  · exact scanToken_length _h

theorem lex_nil (d : Dialect) : lex d [] = some [] := by
  rw [lex]

theorem lex_blank (d : Dialect) (rest : List Char) : lex d (' ' :: rest) = lex d rest := by
  rw [lex]
  rfl

theorem lex_of_scanToken {d : Dialect} {c : Char} {r rest : List Char} {t : Token}
    (hc : c.isWhitespace = false) (h : scanToken d (c :: r) = some (t, rest)) :
    lex d (c :: r) = (lex d rest).map (t :: ·) := by
  rw [lex, if_neg (by simp [hc])]
  split
  · next heq => rw [h] at heq; cases heq
  · next heq => rw [h] at heq; cases heq; rfl

theorem scanText_quoteChar (d : Dialect) (c : Char) (r : List Char) :
    scanText d.backslashEscapes (d.quoteChar c ++ r) =
      pushChar c (scanText d.backslashEscapes r) := by
  unfold Dialect.quoteChar
  split
  · next hc => subst hc; rfl
  · next hc =>
    split
    · next he =>
      obtain ⟨hb, hd⟩ := Bool.and_eq_true_iff.mp he
      rw [of_decide_eq_true hb, hd]
      rfl
    · next he =>
      rw [List.singleton_append, scanText.eq_def]
      simp only [if_neg hc, if_neg he]

/-- A quoted text is read back, whatever the text. A quote behind it would be read as part of it. -/
theorem scanText_quoted (d : Dialect) (s : List Char) {rest : List Char}
    (h : Stops (· == '\'') rest) :
    scanText d.backslashEscapes (s.flatMap d.quoteChar ++ '\'' :: rest) = some (s, rest) := by
  induction s with
  | nil =>
    rw [List.flatMap_nil, List.nil_append, scanText.eq_def]
    simp only [if_true]
    split
    · simp at h
    · rfl
  | cons c s ih =>
    rw [List.flatMap_cons, List.append_assoc, scanText_quoteChar, ih]
    rfl

theorem scanQuoted_append {quote : Char} {s : List Char} (hs : quote ∉ s) (rest : List Char) :
    scanQuoted quote (s ++ quote :: rest) = some (s, rest) := by
  have hne : ∀ c ∈ s, (c != quote) = true := by
    intro c hc
    exact bne_iff_ne.mpr fun h => hs (h ▸ hc)
  have hstop : Stops (· != quote) (quote :: rest) := by simp
  rw [scanQuoted, dropWhile_append_stops hne hstop, takeWhile_append_stops hne hstop]

/-- A numeral begins with a sign or a digit. -/
def beginsNumeral (c : Char) : Bool :=
  isDigit c || c == '-' || c == '+'

theorem IsNumeral.head {w : List Char} (hw : IsNumeral w) :
    ∃ c r, w = c :: r ∧ beginsNumeral c = true := by
  obtain ⟨hs, hm⟩ := hw
  cases hs with
  | absent =>
    obtain ⟨hd, -, -⟩ := hm
    obtain ⟨c, r, rfl⟩ := List.exists_cons_of_ne_nil hd.1
    exact ⟨c, _, rfl, by simp [beginsNumeral, hd.2 c (by simp)]⟩
  | minus => exact ⟨'-', _, rfl, by decide⟩
  | plus => exact ⟨'+', _, rfl, by decide⟩

theorem isNameStart_of_beginsNumeral {c : Char} (h : beginsNumeral c = true) :
    isNameStart c = false := by
  simp only [beginsNumeral, isDigit, Bool.or_eq_true, Bool.and_eq_true, decide_eq_true_eq,
    beq_iff_eq, Char.le_def, UInt32.le_iff_toNat_le] at h
  rcases h with (⟨-, hle⟩ | rfl) | rfl
  · have h9 : ('9' : Char).val.toNat = 57 := rfl
    have hA : ('A' : Char).val.toNat = 65 := rfl
    have ha : ('a' : Char).val.toNat = 97 := rfl
    have h_ : ('_' : Char).val.toNat = 95 := rfl
    have hne : c ≠ '_' := by rintro rfl; omega
    simp only [isNameStart, Bool.or_eq_false_iff, Bool.and_eq_false_iff, decide_eq_false_iff_not,
      beq_eq_false_iff_ne, Char.le_def, UInt32.le_iff_toNat_le]
    exact ⟨⟨.inl (by omega), .inl (by omega)⟩, hne⟩
  · decide
  · decide

theorem scanNumeral_eq_none {c : Char} {r : List Char} (h : beginsNumeral c = false) :
    scanNumeral (c :: r) = none := by
  simp only [beginsNumeral, Bool.or_eq_false_iff, beq_eq_false_iff_ne] at h
  obtain ⟨⟨hd, hm⟩, hp⟩ := h
  have hs : scanSign (c :: r) = ([], c :: r) := by
    unfold scanSign
    split
    · simp_all
    · simp_all
    · rfl
  have hspan : spanDigits (c :: r) = ([], c :: r) := by
    simp [spanDigits, hd]
  unfold scanNumeral
  rw [hs]
  simp only
  rw [hspan]

/-- The character may make a longer symbol of the one before it. -/
def continuesSymbol (s : String) (c : Char) : Bool :=
  (s == "<" || s == ">") && (c == '=' || c == '>')

/-- A symbol begins with one of these characters, none of which begins anything else. -/
def beginsSymbol (c : Char) : Bool :=
  "!<>=().,*;".toList.contains c

theorem symbols_head : ∀ s ∈ symbols, ∃ c r, s.toList = c :: r ∧ beginsSymbol c = true := by
  intro s hs
  simp only [symbols, List.mem_cons, List.not_mem_nil, or_false] at hs
  rcases hs with rfl | rfl | rfl | rfl | rfl | rfl | rfl | rfl | rfl | rfl | rfl | rfl | rfl <;>
    exact ⟨_, _, rfl, by decide⟩

theorem of_beginsSymbol {c : Char} (h : beginsSymbol c = true) :
    isNameStart c = false ∧ beginsNumeral c = false := by
  have hall : "!<>=().,*;".toList.all (fun c => !isNameStart c && !beginsNumeral c) = true := by
    decide
  have hc := List.all_eq_true.mp hall c (List.contains_iff_mem.mp h)
  simpa using hc

theorem scanSymbol_append (s : String) (hs : s ∈ symbols) {rest : List Char}
    (h : Stops (continuesSymbol s) rest) : scanSymbol (s.toList ++ rest) = some (s, rest) := by
  have hdrop : ∀ c, (s = "<" ∨ s = ">") → c = '=' ∨ c = '>' → rest.dropPrefix? [c] = none := by
    intro c hs hc
    cases rest with
    | nil => rfl
    | cons c' r =>
      have hne : c' ≠ c := by
        rintro rfl
        have hm : continuesSymbol s c' = true := by
          rcases hs with rfl | rfl <;> rcases hc with rfl | rfl <;> decide
        rw [stops_cons, hm] at h
        cases h
      simp [List.dropPrefix?, hne]
  simp only [symbols, List.mem_cons, List.not_mem_nil, or_false] at hs
  rcases hs with rfl | rfl | rfl | rfl | rfl | rfl | rfl | rfl | rfl | rfl | rfl | rfl | rfl <;>
    simp_all [scanSymbol, symbols, List.dropPrefix?]

/-- Names are quoted by one of the two quotes that no alias may hold. -/
def Dialect.QuotesNames (d : Dialect) : Prop :=
  d.identifierQuote = '"' ∨ d.identifierQuote = '\x60'

instance (d : Dialect) : Decidable d.QuotesNames := by
  unfold Dialect.QuotesNames; infer_instance

/-- The characters that a token other than a string or a quoted name cannot begin with. -/
def delimiters : List Char :=
  [' ', '\t', '\r', '\n', '\'', '"', '\x60']

section

variable {d : Dialect} (hq : d.QuotesNames)

include hq

theorem not_delimiter {p : Char → Bool} (hp : delimiters.all (fun b => !p b) = true) {c : Char}
    (hc : p c = true) : c.isWhitespace = false ∧ c ≠ '\'' ∧ c ≠ d.identifierQuote := by
  have h : c ∉ delimiters := by
    intro hm
    have hnot := List.all_eq_true.mp hp c hm
    rw [hc] at hnot
    cases hnot
  simp only [delimiters, List.mem_cons, List.not_mem_nil, or_false, not_or] at h
  obtain ⟨h1, h2, h3, h4, h5, h6, h7⟩ := h
  refine ⟨by simp [Char.isWhitespace, h1, h2, h3, h4], h5, ?_⟩
  rintro rfl
  exact hq.elim h6 h7

theorem lex_word (w : String) (hw : isPlainName w.toList = true) {rest : List Char}
    (h : Stops isNamePart rest) :
    lex d (w.toList ++ rest) = (lex d rest).map (.word w :: ·) := by
  obtain ⟨c, r, hcr⟩ : ∃ c r, w.toList = c :: r := by
    cases hl : w.toList with
    | nil => rw [hl] at hw; cases hw
    | cons c r => exact ⟨c, r, rfl⟩
  rw [hcr, isPlainName, Bool.and_eq_true] at hw
  obtain ⟨hc, hr⟩ := hw
  have hparts : ∀ c ∈ r, isNamePart c = true := List.all_eq_true.mp hr
  obtain ⟨hblank, htext, hquote⟩ := not_delimiter hq (by decide) hc
  rw [hcr, List.cons_append]
  apply lex_of_scanToken hblank
  rw [scanToken, if_neg htext, if_neg hquote, if_pos hc, takeWhile_append_stops hparts h,
    dropWhile_append_stops hparts h, ← hcr, String.ofList_toList]

omit hq in
theorem lex_text (s : String) {rest : List Char} (h : Stops (· == '\'') rest) :
    lex d ((d.quoteText s).toList ++ rest) = (lex d rest).map (.text s :: ·) := by
  have hspelled : (d.quoteText s).toList ++ rest =
      '\'' :: (s.toList.flatMap d.quoteChar ++ '\'' :: rest) := by
    simp [Dialect.quoteText]
  rw [hspelled]
  apply lex_of_scanToken (by decide)
  rw [scanToken, if_pos rfl, scanText_quoted d s.toList h]
  simp only [Option.map_some, String.ofList_toList]

theorem lex_quoted (name : String) (hn : d.identifierQuote ∉ name.toList) (rest : List Char) :
    lex d (d.identifierQuote :: (name.toList ++ d.identifierQuote :: rest)) =
      (lex d rest).map (.quoted name :: ·) := by
  have hblank : d.identifierQuote.isWhitespace = false := by
    rcases hq with h | h <;> rw [h] <;> decide
  have htext : d.identifierQuote ≠ '\'' := by
    rcases hq with h | h <;> rw [h] <;> decide
  apply lex_of_scanToken hblank
  rw [scanToken, if_neg htext, if_pos rfl, scanQuoted_append hn]
  simp only [Option.map_some, String.ofList_toList]

theorem lex_numeral (w : String) (hw : IsNumeral w.toList) {rest : List Char}
    (h : Stops continuesNumeral rest) :
    lex d (w.toList ++ rest) = (lex d rest).map (.numeral w :: ·) := by
  obtain ⟨c, r, hcr, hc⟩ := hw.head
  have hscan := scanNumeral_append hw h
  obtain ⟨hblank, htext, hquote⟩ := not_delimiter hq (by decide) hc
  rw [hcr, List.cons_append] at hscan ⊢
  apply lex_of_scanToken hblank
  rw [scanToken, if_neg htext, if_neg hquote,
    if_neg (by simp [isNameStart_of_beginsNumeral hc]), hscan]
  simp only
  rw [← hcr, String.ofList_toList]

theorem lex_symbol (s : String) (hs : s ∈ symbols) {rest : List Char}
    (h : Stops (continuesSymbol s) rest) :
    lex d (s.toList ++ rest) = (lex d rest).map (.symbol s :: ·) := by
  obtain ⟨c, r, hcr, hc⟩ := symbols_head s hs
  have hscan := scanSymbol_append s hs h
  obtain ⟨hblank, htext, hquote⟩ := not_delimiter hq (by decide) hc
  obtain ⟨hname, hnumeral⟩ := of_beginsSymbol hc
  rw [hcr, List.cons_append] at hscan ⊢
  apply lex_of_scanToken hblank
  rw [scanToken, if_neg htext, if_neg hquote, if_neg (by simp [hname]),
    scanNumeral_eq_none hnumeral, hscan]
  rfl

end

end GridQuery.Sql
