import SchemaGuard.Proofs.Calendar
import SchemaGuard.Proofs.Source.PrintedTokens
import SchemaGuard.Proofs.Validator.ItemScreen

/-! # Texts that spell tokens

A text on one line is scanned part by part. Each part ends where the next one begins, since no
character that can come after a name or a number belongs to it.
-/

namespace SchemaGuard.Lexer

open Outcome SchemaGuard.Parser

/-! ## Text that is scanned as given tokens -/

/-- A text within a line is scanned as some tokens if a given text comes after it. -/
def Spells (text : List Char) (tokens : List Token) (rest : List Char) : Prop :=
  ∀ state : State, state.atLineStart = false →
    scan state (text ++ rest) = scan (tokens.foldl State.accept state) rest

theorem accept_atLineStart (tokens : List Token) (state : State) :
    (tokens.foldl State.accept state).atLineStart = state.atLineStart := by
  induction tokens generalizing state with
  | nil => rfl
  | cons token tokens ih =>
      rw [List.foldl_cons, ih, State.accept_eq]
      rfl

theorem Spells.append {text text' rest : List Char} {tokens tokens' : List Token}
    (hfirst : Spells text tokens (text' ++ rest)) (hsecond : Spells text' tokens' rest) :
    Spells (text ++ text') (tokens ++ tokens') rest := by
  intro state hstate
  rw [List.append_assoc, hfirst state hstate, List.foldl_append]
  exact hsecond _ ((accept_atLineStart tokens state).trans hstate)

/-- Characters that come after a part of a printed expression. -/
def followers : List Char := [' ', ')', ']', ',', '[', '(', '.']

/-- A text that does not go on with what comes before it. -/
def Follows (rest : List Char) : Prop :=
  ∀ c ∈ rest.head?, c ∈ followers

/-- The texts between the parts of printed expressions, with their tokens. -/
def marks : List (String × List Token) :=
  [("(", [.leftParen]), (")", [.rightParen]), ("[", [.leftBracket]), ("]", [.rightBracket]),
    (", ", [.comma]), (".", [.dot]), ("-", [.minus]), ("not ", [.not]), (" and ", [.and]),
    (" or ", [.or]), (" if ", [.ifWord]), (" else ", [.elseWord])]

theorem spells_mark (text : String) (tokens : List Token) (hmark : (text, tokens) ∈ marks)
    (rest : List Char) : Spells text.toList tokens rest := by
  rintro ⟨line, brackets, indents, _, lexemes⟩ rfl
  simp only [marks, List.mem_cons, Prod.mk.injEq, List.not_mem_nil, or_false] at hmark
  rcases hmark with h | h | h | h | h | h | h | h | h | h | h | h <;> obtain ⟨rfl, rfl⟩ := h <;> cbv

theorem spells_binary (op : BinaryOp) (rest : List Char) :
    Spells (" " ++ op.symbol ++ " ").toList [op.token] rest := by
  rintro ⟨line, brackets, indents, _, lexemes⟩ rfl
  cases op <;> cbv

theorem spells_comparison (op : CompareOp) (rest : List Char) :
    Spells (" " ++ op.symbol ++ " ").toList op.tokens rest := by
  rintro ⟨line, brackets, indents, _, lexemes⟩ rfl
  cases op <;> cbv

/-- A token that is read in full from a text which begins no blank, comment or line end. -/
theorem spells_token {c : Char} {text rest : List Char} {token : Token}
    (hc : c ∉ ['\n', ' ', '\t', '\r', '#', '\\'])
    (hread : ∀ line, readToken line c (text ++ rest) = .ok (token, rest)) :
    Spells (c :: text) [token] rest := by
  intro state hstate
  simp only [List.mem_cons, List.not_mem_nil, or_false, not_or] at hc
  obtain ⟨hline, hspace, htab, hreturn, hcomment, hjoin⟩ := hc
  have hstep : step state (c :: (text ++ rest)) = .ok (state.accept token, rest) := by
    have hsettle : settleLine state (c :: (text ++ rest)) = .ok (state, c :: (text ++ rest)) := by
      rw [settleLine, if_neg (by simp [hstate]), ← hstate]
    rw [step_eq, hsettle, ok_bind, takeNext, takeOne, if_neg hline,
      if_neg (by simp [hspace, htab, hreturn]), if_neg hcomment, if_neg hjoin, hread]
    rfl
  exact scan_cons hstep

/-! ## Words -/

theorem Follows.takeWhile {rest : List Char} {p : Char → Bool} (hrest : Follows rest)
    (hp : followers.all (!p ·) = true) : rest.takeWhile p = [] ∧ rest.dropWhile p = rest := by
  cases rest with
  | nil => exact ⟨rfl, rfl⟩
  | cons c rest =>
      have hc := List.all_eq_true.mp hp c (hrest c rfl)
      simp only [Bool.not_eq_true'] at hc
      exact ⟨by rw [List.takeWhile_cons, hc]; rfl, by rw [List.dropWhile_cons, hc]; rfl⟩

theorem takeWhile_followed {p : Char → Bool} {text rest : List Char}
    (htext : ∀ c ∈ text, p c = true) (hrest : Follows rest) (hp : followers.all (!p ·) = true) :
    (text ++ rest).takeWhile p = text ∧ (text ++ rest).dropWhile p = rest := by
  obtain ⟨htake, hdrop⟩ := hrest.takeWhile hp
  rw [List.takeWhile_append_of_pos htext, List.dropWhile_append_of_pos htext, htake, hdrop,
    List.append_nil]
  exact ⟨rfl, rfl⟩

/-- A name or a number begins with none of the characters that are looked for before them. -/
theorem notMem_of_isNameStart {c : Char} (hc : isNameStart c = true ∨ c.isDigit = true) :
    c ∉ ['\n', ' ', '\t', '\r', '#', '\\', '"', '\'', '\x7b'] := by
  have hothers : (['\n', ' ', '\t', '\r', '#', '\\', '"', '\'', '\x7b'].all
      (fun other => !isNameStart other && !other.isDigit)) = true := by decide
  intro hmem
  have hother := List.all_eq_true.mp hothers c hmem
  obtain hc | hc := hc <;> simp [hc] at hother

theorem isDigit_of_isNameStart {c : Char} (hc : isNameStart c = true) : c.isDigit = false := by
  by_contra hdigit
  obtain ⟨hleast, hmost⟩ := Calendar.toNat_of_isDigit (Bool.not_eq_false _ ▸ hdigit)
  have hnone : ∀ n ≤ 57, 48 ≤ n → isNameStart (Char.ofNat n) = false := by decide
  have hother := hnone c.toNat hmost hleast
  rw [Char.ofNat_toNat, hc] at hother
  cases hother

/-- A word is read up to what follows it, which no word goes on with. -/
theorem spells_word {word : String} (hname : isName word.toList = true) {rest : List Char}
    (hrest : Follows rest) : Spells word.toList [Token.ofWord word] rest := by
  obtain ⟨htake, hdrop⟩ := takeWhile_followed (fun c hc => isNameChar_of_mem hname hc) hrest
    (by decide)
  have hword : ∀ line, readWord line (word.toList ++ rest) = .ok (Token.ofWord word, rest) := by
    intro line
    unfold readWord
    rw [htake, hdrop]
    dsimp only
    rw [String.ofList_toList]
    -- A word before a quote could be the prefix of a string.
    cases rest with
    | nil => rfl
    | cons c rest =>
        have hquote : ¬ (c = '"' ∨ c = '\'') := by
          have hc := hrest c rfl
          rintro (rfl | rfl) <;> exact absurd hc (by decide)
        simp [hquote]
  cases htext : word.toList with
  | nil =>
      rw [htext] at hname
      cases hname
  | cons c text =>
      rw [htext] at hname hword
      have hstart : isNameStart c = true := (Bool.and_eq_true_iff.mp hname).1
      have hc := notMem_of_isNameStart (.inl hstart)
      have hdigit := isDigit_of_isNameStart hstart
      simp only [List.mem_cons, List.not_mem_nil, or_false, not_or] at hc
      refine spells_token (by simp [hc]) fun line => ?_
      rw [readToken, if_neg (by simp [hc]), hdigit, if_neg (by simp), if_neg (by simp [hc]),
        if_pos hstart]
      exact hword line

/-! ## Integers -/

/-- Digits are read up to what follows them, unless a dot makes them a real number. -/
theorem numeralText_followed {digits rest : List Char} (hdigits : ∀ c ∈ digits, c.isDigit = true)
    (hrest : Follows rest) (hdot : rest.head? ≠ some '.') :
    numeralText false false (digits ++ rest) = (digits, false, rest) := by
  induction digits with
  | nil =>
      cases rest with
      | nil => rfl
      | cons c rest =>
          have hc := hrest c rfl
          simp only [followers, List.mem_cons, List.not_mem_nil, or_false] at hc
          obtain rfl | rfl | rfl | rfl | rfl | rfl | rfl := hc
          all_goals first | rfl | exact absurd rfl hdot
  | cons c digits ih =>
      obtain ⟨hc, hdigits⟩ := List.forall_mem_cons.mp hdigits
      rw [List.cons_append, numeralText, if_pos (by simp [hc]), ih hdigits]

theorem isDigit_of_mem_toDigits {n : Nat} {c : Char} (hc : c ∈ Nat.toDigits 10 n) :
    c.isDigit = true :=
  Nat.isDigit_of_mem_toDigits (by decide) (by decide) hc

theorem isNameChar_of_isDigit {c : Char} (hc : c.isDigit = true) : isNameChar c = true := by
  have hcode := (Calendar.toNat_of_isDigit hc).2
  have hnumeric : Unicode.isNumeric c = true := by
    rw [Unicode.isNumeric, if_pos (by omega), hc]
  simp [isNameChar, Unicode.isAlphanumeric, hnumeric]

theorem integer?_toDigits (n : Nat) : Numeral.integer? (Nat.toDigits 10 n) = some (n : Int) := by
  have hsign : Numeral.splitSign (Nat.toDigits 10 n) = (false, Nat.toDigits 10 n) := by
    unfold Numeral.splitSign
    split
    next rest hdigits =>
      have hminus : '-'.isDigit = true := isDigit_of_mem_toDigits (hdigits ▸ List.mem_cons_self)
      cases hminus
    next rest hdigits =>
      have hplus : '+'.isDigit = true := isDigit_of_mem_toDigits (hdigits ▸ List.mem_cons_self)
      cases hplus
    next => rfl
  have hdigits : (Nat.toDigits 10 n).all Char.isDigit = true :=
    List.all_eq_true.mpr fun _ hc => isDigit_of_mem_toDigits hc
  have hvalue : Numeral.natural (Nat.toDigits 10 n) = n := Nat.ofDigitChars_ten_toDigits
  rw [Numeral.integer?, hsign]
  simp [hdigits, hvalue, Nat.toDigits_ne_nil]

theorem spells_int {n : Int} (hsign : 0 ≤ n) (hrange : Int64Range.check? n = some n)
    {rest : List Char} (hrest : Follows rest) (hdot : rest.head? ≠ some '.') :
    Spells (toString n).toList [.int n] rest := by
  obtain ⟨n, rfl⟩ := Int.eq_ofNat_of_zero_le hsign
  have htext : (toString (n : Int)).toList = Nat.toDigits 10 n := Nat.toList_repr
  have hread : ∀ line, readNumber line (Nat.toDigits 10 n ++ rest) = .ok (.int n, rest) := by
    intro line
    rw [readNumber, numeralText_followed (fun _ hc => isDigit_of_mem_toDigits hc) hrest hdot]
    dsimp only
    rw [integer?_toDigits, Option.bind_some, hrange]
    rfl
  rw [htext]
  cases hdigits : Nat.toDigits 10 n with
  | nil => exact absurd hdigits Nat.toDigits_ne_nil
  | cons c digits =>
      have hc : c.isDigit = true := isDigit_of_mem_toDigits (hdigits ▸ List.mem_cons_self)
      have hother := notMem_of_isNameStart (.inr hc)
      simp only [List.mem_cons, List.not_mem_nil, or_false, not_or] at hother
      refine spells_token (by simp [hother]) fun line => ?_
      rw [readToken, if_neg (by simp [hother]), if_pos hc, ← List.cons_append, ← hdigits]
      exact hread line

/-! ## Quoted texts -/

/-- The short escapes are undone up to the closing quote. -/
theorem stringBody_escaped {text : List Char} (htext : ∀ c ∈ text, Expr.IsShown c)
    (rest : List Char) :
    stringBody false '"' false (text.flatMap Text.Quoted.escape ++ '"' :: rest) =
      .ok (text, rest) := by
  induction text with
  | nil => rfl
  | cons c text ih =>
      obtain ⟨hc, htext⟩ := List.forall_mem_cons.mp htext
      have hrest := ih htext
      rw [List.flatMap_cons, List.append_assoc]
      obtain hplain | hshort := hc
      · have hquote : c ≠ '"' := by
          rintro rfl
          cases hplain
        have hline : c ≠ '\n' := by
          rintro rfl
          cases hplain
        have hescape : c ≠ '\\' := by
          rintro rfl
          cases hplain
        rw [hplain, List.singleton_append, stringBody, hrest]
        simp [hquote, hline, hescape]
      · simp only [List.mem_cons, List.not_mem_nil, or_false] at hshort
        obtain rfl | rfl | rfl | rfl | rfl | rfl := hshort <;>
          (simp only [Text.Quoted.escape, List.cons_append, List.nil_append, stringBody]
           simp [unescape?, hrest])

theorem spells_string {s : String} (hs : ∀ c ∈ s.toList, Expr.IsShown c) (rest : List Char) :
    Spells (Text.Quoted.quoteString s).toList [.str s] rest := by
  rw [Text.Quoted.quoteString, String.toList_ofList, Text.Quoted.quote, List.cons_append]
  refine spells_token (by decide) fun line => ?_
  rw [readToken, if_pos (.inl rfl), readString, List.append_assoc, List.singleton_append,
    stringBody_escaped hs]
  dsimp only
  rw [String.ofList_toList]

/-! ## Paths -/

theorem piecesFrom_name {name : List Char} (hname : '.' ∉ name) (piece rest : List Char) :
    Text.piecesFrom ['.'] 0 piece (name ++ rest) =
      Text.piecesFrom ['.'] 0 (name.reverse ++ piece) rest := by
  induction name generalizing piece with
  | nil => rfl
  | cons c name ih =>
      simp only [List.mem_cons, not_or] at hname
      rw [List.cons_append, Text.piecesFrom, if_neg (by simp [hname.1]), ih hname.2,
        List.reverse_cons, List.append_assoc, List.singleton_append]

/-- Names are found again between the dots that join them. -/
theorem splitOn_intercalate : ∀ {names : List (List Char)}, names ≠ [] →
    (∀ name ∈ names, '.' ∉ name) → Text.splitOn ['.'] (['.'].intercalate names) = names
  | [], hne, _ => absurd rfl hne
  | [name], _, hnames => by
      have hname := hnames name List.mem_cons_self
      have hpieces := piecesFrom_name hname [] []
      simpa [Text.splitOn, Text.piecesFrom] using hpieces
  | name :: next :: names, _, hnames => by
      obtain ⟨hname, hnames⟩ := List.forall_mem_cons.mp hnames
      have hrest := splitOn_intercalate (List.cons_ne_nil next names) hnames
      rw [Text.splitOn] at hrest ⊢
      rw [List.intercalate_cons_cons, List.append_assoc, piecesFrom_name hname,
        List.singleton_append, Text.piecesFrom, if_pos (by simp)]
      simp [hrest]

theorem forall_mem_intercalate {p : Char → Prop} {separator : List Char}
    (hseparator : ∀ c ∈ separator, p c) : ∀ {pieces : List (List Char)},
    (∀ piece ∈ pieces, ∀ c ∈ piece, p c) → ∀ c ∈ separator.intercalate pieces, p c
  | [], _ => by simp
  | [piece], hpieces => by simpa using hpieces
  | piece :: next :: pieces, hpieces => by
      obtain ⟨hpiece, hpieces⟩ := List.forall_mem_cons.mp hpieces
      have hrest := forall_mem_intercalate hseparator hpieces
      rw [List.intercalate_cons_cons, List.append_assoc]
      exact List.forall_mem_append.mpr ⟨hpiece, List.forall_mem_append.mpr ⟨hseparator, hrest⟩⟩

/-- A path is read up to its closing brace, and its names are those between the dots. -/
theorem readPath_intercalate {names : List (List Char)} (hne : names ≠ [])
    (hnames : ∀ name ∈ names, isName name = true) (line : Nat) (rest : List Char) :
    readPath line (['.'].intercalate names ++ '\x7d' :: rest) =
      .ok (.path (names.map String.ofList), rest) := by
  let inside (c : Char) : Bool := c != '\x7d' && c != '\n'
  have hchars : ∀ name ∈ names, ∀ c ∈ name, isNameChar c = true :=
    fun name hname _ hc => isNameChar_of_mem (hnames name hname) hc
  have hdots : ∀ name ∈ names, '.' ∉ name := by
    intro name hname hdot
    cases hchars name hname '.' hdot
  have hinside : ∀ c ∈ ['.'].intercalate names, inside c = true := by
    refine forall_mem_intercalate (by simp [inside]) fun name hname c hc => ?_
    have hchar := hchars name hname c hc
    have hclose : c ≠ '\x7d' := by
      rintro rfl
      cases hchar
    have hline : c ≠ '\n' := by
      rintro rfl
      cases hchar
    simp [inside, hclose, hline]
  have hend : ('\x7d' :: rest).takeWhile inside = [] ∧
      ('\x7d' :: rest).dropWhile inside = '\x7d' :: rest := ⟨rfl, rfl⟩
  unfold readPath
  dsimp only
  rw [List.takeWhile_append_of_pos hinside, List.dropWhile_append_of_pos hinside, hend.1, hend.2,
    List.append_nil, splitOn_intercalate hne hdots]
  exact if_pos (List.all_eq_true.mpr hnames)

theorem spells_path {parts : List String} (hne : parts ≠ [])
    (hparts : ∀ part ∈ parts, isName part.toList = true) (rest : List Char) :
    Spells ("\x7b" ++ String.intercalate "." parts ++ "\x7d").toList [.path parts] rest := by
  have htext : ("\x7b" ++ String.intercalate "." parts ++ "\x7d").toList =
      '\x7b' :: (['.'].intercalate (parts.map String.toList) ++ ['\x7d']) := by
    simp [String.toList_append, String.toList_intercalate]
  have hnames : (parts.map String.toList).map String.ofList = parts := by simp
  rw [htext]
  refine spells_token (by decide) fun line => ?_
  rw [readToken, if_neg (by decide), if_neg (by decide), if_pos rfl, List.append_assoc,
    List.singleton_append, readPath_intercalate (by simpa using hne) (by simpa using hparts), hnames]

/-! ## Whole sources -/

theorem foldl_accept (tokens : List Token) (state : State) : ∃ brackets,
    tokens.foldl State.accept state =
      { state with
        brackets := brackets
        lexemes := (tokens.map (⟨·, state.line⟩)).reverse ++ state.lexemes } := by
  induction tokens generalizing state with
  | nil => exact ⟨state.brackets, rfl⟩
  | cons token tokens ih =>
      obtain ⟨brackets, hstate⟩ := ih (state.accept token)
      refine ⟨brackets, ?_⟩
      rw [List.foldl_cons, hstate, State.accept_eq]
      simp [State.push]

theorem finish_oneLine (tokens : List Token) (brackets : Nat) (begun : Bool) : ∃ ending,
    (ending = [.newline, .eof] ∨ ending = [.eof]) ∧
      State.finish ⟨1, brackets, [0], begun, (oneLine tokens).reverse⟩ =
        oneLine tokens ++ oneLine ending := by
  unfold State.finish State.pushNewline
  dsimp only
  split
  next => exact ⟨[.eof], .inr rfl, by simp [State.closeAll, State.push, oneLine]⟩
  next =>
    split
    · exact ⟨[.eof], .inr rfl, by simp [State.closeAll, State.push, oneLine]⟩
    · exact ⟨[.newline, .eof], .inl rfl, by simp [State.closeAll, State.push, oneLine]⟩

/-- A text on one line is read as the tokens that it spells and those that end a source. -/
theorem lexemes_of_spells {text : String} {tokens : List Token}
    (hbegins : beginsLine text.toList = true) (hspells : Spells text.toList tokens []) :
    ∃ ending, (ending = [.newline, .eof] ∨ ending = [.eof]) ∧
      lexemes text = .ok (oneLine tokens ++ oneLine ending) := by
  have hbegun : scan {} text.toList = scan { atLineStart := false } text.toList := by
    obtain ⟨c, rest, htext⟩ : ∃ c rest, text.toList = c :: rest := by
      cases htext : text.toList with
      | nil =>
          rw [htext] at hbegins
          cases hbegins
      | cons c rest => exact ⟨c, rest, rfl⟩
    rw [htext] at hbegins ⊢
    refine scan_congr ?_
    rw [step_eq, step_eq, settleLine_closed hbegins rfl rfl [] rfl (by simp)]
    rfl
  have hscan : scan {} text.toList = .ok (tokens.foldl State.accept { atLineStart := false }) := by
    rw [hbegun, ← List.append_nil text.toList, hspells _ rfl, scan]
  obtain ⟨brackets, hstate⟩ := foldl_accept tokens { atLineStart := false }
  obtain ⟨ending, hending, hfinish⟩ := finish_oneLine tokens brackets false
  refine ⟨ending, hending, ?_⟩
  rw [lexemes, hscan, hstate, List.append_nil]
  exact congrArg Except.ok hfinish

end SchemaGuard.Lexer
