import SchemaGuard.Proofs.Source.Prefix

/-! # Line ends with carriage returns

A carriage return before a line end leaves no trace in the tokens of a source: it is passed
over as a blank, belongs to a comment, or stands where a line is joined to the next one. No
token reaches over a line end, so none is read differently.
-/

namespace SchemaGuard.Lexer

open Outcome

/-- Two texts of which the second has a carriage return before some line ends, and the first has
none at all. -/
inductive Returned : List Char → List Char → Prop
  | nil : Returned [] []
  | char {c : Char} {text text' : List Char} (hline : c ≠ '\n') (hreturn : c ≠ '\r')
      (hrest : Returned text text') : Returned (c :: text) (c :: text')
  | line {text text' : List Char} (hrest : Returned text text') :
      Returned ('\n' :: text) ('\n' :: text')
  | turn {text text' : List Char} (hrest : Returned text text') :
      Returned ('\n' :: text) ('\r' :: '\n' :: text')

/-- The same is read from both texts, and what is left of them is alike. -/
def Returned.Rest {α : Type} (read read' : α × List Char) : Prop :=
  read.1 = read'.1 ∧ Returned read.2 read'.2

variable {text text' : List Char}

/-! ## Tokens -/

theorem Returned.dropWhile {p : Char → Bool} (hend : p '\n' = false)
    (htext : Returned text text') : Returned (text.dropWhile p) (text'.dropWhile p) := by
  induction htext with
  | nil => exact .nil
  | char hline hreturn hrest ih =>
      rw [List.dropWhile_cons, List.dropWhile_cons]
      split
      · exact ih
      · exact .char hline hreturn hrest
  | line hrest =>
      rw [List.dropWhile_cons, List.dropWhile_cons, if_neg (by simp [hend]),
        if_neg (by simp [hend])]
      exact .line hrest
  | turn hrest =>
      rw [List.dropWhile_cons, List.dropWhile_cons, if_neg (by simp [hend])]
      split
      · rw [List.dropWhile_cons, if_neg (by simp [hend])]
        exact .line hrest
      · exact .turn hrest

/-- What is taken from both texts is the same, unless it ends at a line end. -/
theorem Returned.takeWhile {p : Char → Bool} (hend : p '\n' = false)
    (htext : Returned text text') :
    text'.takeWhile p = text.takeWhile p ∨ (text.dropWhile p).head? = some '\n' := by
  induction htext with
  | nil => exact .inl rfl
  | char hline hreturn hrest ih =>
      simp only [List.takeWhile_cons, List.dropWhile_cons]
      split
      · exact ih.imp_left (congrArg _)
      · exact .inl rfl
  | line | turn =>
      rw [List.dropWhile_cons, if_neg (by simp [hend])]
      exact .inr rfl

theorem Returned.takeWhile_eq {p : Char → Bool} (hend : p '\n' = false) (hreturn : p '\r' = false)
    (htext : Returned text text') : text'.takeWhile p = text.takeWhile p := by
  induction htext with
  | nil => rfl
  | char _ _ _ ih => simp only [List.takeWhile_cons, ih]
  | line => simp [hend]
  | turn => simp [hend, hreturn]

theorem numeralText_end {c : Char} (hc : c = '\n' ∨ c = '\r') (isReal afterMark : Bool)
    (rest : List Char) : numeralText isReal afterMark (c :: rest) = ([], isReal, c :: rest) := by
  obtain rfl | rfl := hc <;> simp [numeralText]

theorem Returned.numeralText (htext : Returned text text') (isReal afterMark : Bool) :
    ∃ digits real rest rest', numeralText isReal afterMark text = (digits, real, rest) ∧
      numeralText isReal afterMark text' = (digits, real, rest') ∧ Returned rest rest' := by
  induction htext generalizing isReal afterMark with
  | nil => exact ⟨_, _, _, _, rfl, rfl, .nil⟩
  | @char c text text' hline hreturn hrest ih =>
      simp only [Lexer.numeralText]
      split
      · obtain ⟨digits, real, rest, rest', hfirst, hsecond, hleft⟩ := ih isReal false
        rw [hfirst, hsecond]
        exact ⟨_, _, _, _, rfl, rfl, hleft⟩
      · split
        · exact ih isReal false
        · split
          · obtain ⟨digits, real, rest, rest', hfirst, hsecond, hleft⟩ := ih true false
            rw [hfirst, hsecond]
            exact ⟨_, _, _, _, rfl, rfl, hleft⟩
          · split
            · obtain ⟨digits, real, rest, rest', hfirst, hsecond, hleft⟩ := ih true true
              rw [hfirst, hsecond]
              exact ⟨_, _, _, _, rfl, rfl, hleft⟩
            · exact ⟨_, _, _, _, rfl, rfl, .char hline hreturn hrest⟩
  | line hrest =>
      exact ⟨_, _, _, _, numeralText_end (.inl rfl) _ _ _, numeralText_end (.inl rfl) _ _ _,
        .line hrest⟩
  | turn hrest =>
      exact ⟨_, _, _, _, numeralText_end (.inl rfl) _ _ _, numeralText_end (.inr rfl) _ _ _,
        .turn hrest⟩

theorem readNumber_returned (line : Nat) (htext : Returned text text') :
    Together Returned.Rest (readNumber line text) (readNumber line text') := by
  obtain ⟨digits, real, rest, rest', hfirst, hsecond, hleft⟩ := htext.numeralText false false
  unfold readNumber
  rw [hfirst, hsecond]
  dsimp only
  split
  · exact ⟨rfl, hleft⟩
  · trivial

/-- A string ends on the line on which it begins, with or without a carriage return there. -/
theorem stringBody_returned {raw : Bool} {quote : Char} (hline : quote ≠ '\n')
    (hreturn : quote ≠ '\r') (escaped : Bool) (htext : Returned text text') :
    Together Returned.Rest (stringBody raw quote escaped text)
      (stringBody raw quote escaped text') := by
  have hprepend : ∀ {d : Char} {read read' : List Char × List Char}, Returned.Rest read read' →
      Returned.Rest (d :: read.1, read.2) (d :: read'.1, read'.2) :=
    fun {d} _ _ hread => ⟨congrArg (d :: ·) hread.1, hread.2⟩
  induction htext generalizing escaped with
  | nil => cases escaped <;> trivial
  | @char c text text' hc hc' hrest ih =>
      cases escaped with
      | true =>
          rw [stringBody, stringBody]
          split
          · trivial
          · exact (ih false).map fun _ _ => hprepend
      | false =>
          rw [stringBody, stringBody]
          split
          · exact ⟨rfl, hrest⟩
          · split
            · trivial
            · split
              · exact ih true
              · exact (ih false).map fun _ _ => hprepend
  | line | turn =>
      cases escaped with
      | true => trivial
      | false => simp [stringBody, hline.symm, hreturn.symm, Together]

theorem readString_returned {raw : Bool} {quote : Char} (hquote : quote = '"' ∨ quote = '\'')
    (line : Nat) (htext : Returned text text') :
    Together Returned.Rest (readString line raw quote text) (readString line raw quote text') := by
  have hbody : Together Returned.Rest (stringBody raw quote false text) _ :=
    stringBody_returned (by obtain rfl | rfl := hquote <;> decide)
      (by obtain rfl | rfl := hquote <;> decide) false htext
  unfold readString
  obtain ⟨_, _, hfirst, hsecond⟩ | ⟨⟨body, rest⟩, ⟨_, rest'⟩, hfirst, hsecond, rfl, hleft⟩ :=
    hbody.cases
  · rw [hfirst, hsecond]
    trivial
  · rw [hfirst, hsecond]
    exact ⟨rfl, hleft⟩

theorem readWord_returned (line : Nat) (htext : Returned text text') :
    Together Returned.Rest (readWord line text) (readWord line text') := by
  have hend : isNameChar '\n' = false := by decide
  have hword : text'.takeWhile isNameChar = text.takeWhile isNameChar :=
    htext.takeWhile_eq hend (by decide)
  have hrest := htext.dropWhile hend
  unfold readWord
  rw [hword]
  dsimp only
  generalize text.dropWhile isNameChar = rest at hrest
  generalize text'.dropWhile isNameChar = rest' at hrest
  cases hrest with
  | nil => exact ⟨rfl, .nil⟩
  | char hline hreturn hrest =>
      dsimp only
      split
      next hquote => exact readString_returned hquote.1 line hrest
      next =>
        split
        next hquote => exact readString_returned hquote.1 line hrest
        next => exact ⟨rfl, .char hline hreturn hrest⟩
  | line hrest => exact ⟨rfl, .line hrest⟩
  | turn hrest => exact ⟨rfl, .turn hrest⟩

theorem readPath_returned (line : Nat) (htext : Returned text text') :
    Together Returned.Rest (readPath line text) (readPath line text') := by
  let inside (c : Char) : Bool := c != '\x7d' && c != '\n'
  have hrest := htext.dropWhile (p := inside) (by decide)
  have hbody := htext.takeWhile (p := inside) (by decide)
  unfold readPath
  dsimp only
  generalize text.dropWhile inside = rest at hrest hbody
  generalize text'.dropWhile inside = rest' at hrest
  cases hrest with
  | nil => trivial
  | @char c rest rest' hline hreturn hrest =>
      rw [hbody.resolve_right (by simpa using hline)]
      split
      next heq =>
        cases heq
        split
        · exact ⟨rfl, hrest⟩
        · trivial
      next hne =>
        split
        next heq =>
          cases heq
          exact absurd rfl (hne _)
        next => trivial
  | line hrest => trivial
  | turn hrest => trivial

theorem extended_returned {next : Char} (hline : next ≠ '\n') (hreturn : next ≠ '\r')
    (long short : Token) (htext : Returned text text') :
    Returned.Rest (extended next long short text) (extended next long short text') := by
  cases htext with
  | nil => exact ⟨rfl, .nil⟩
  | char hc hc' hrest =>
      rw [extended, extended]
      split
      · exact ⟨rfl, hrest⟩
      · exact ⟨rfl, .char hc hc' hrest⟩
  | line hrest =>
      rw [extended, extended, if_neg hline.symm, if_neg hline.symm]
      exact ⟨rfl, .line hrest⟩
  | turn hrest =>
      rw [extended, extended, if_neg hline.symm, if_neg hreturn.symm]
      exact ⟨rfl, .turn hrest⟩

theorem sign?_returned (c : Char) (htext : Returned text text') :
    Option.Rel Returned.Rest (sign? c text) (sign? c text') := by
  unfold sign?
  split <;> first
    | exact .some ⟨rfl, htext⟩
    | exact .some (extended_returned (by decide) (by decide) _ _ htext)
    | exact .none
    | (cases htext with
       | @char d _ _ _ _ hrest =>
           split
           next heq =>
             cases heq
             exact .some ⟨rfl, hrest⟩
           next hne =>
             split
             next heq =>
               cases heq
               exact absurd rfl (hne _)
             next => exact .none
       | _ => exact .none)

theorem readToken_returned (line : Nat) (c : Char) (hline : c ≠ '\n') (hreturn : c ≠ '\r')
    (htext : Returned text text') :
    Together Returned.Rest (readToken line c text) (readToken line c text') := by
  unfold readToken
  split
  next hquote => exact readString_returned hquote line htext
  next =>
    split
    next => exact readNumber_returned line (.char hline hreturn htext)
    next =>
      split
      next => exact readPath_returned line htext
      next =>
        split
        next => exact readWord_returned line (.char hline hreturn htext)
        next =>
          have hsign := sign?_returned c htext
          generalize sign? c text = sign at hsign
          generalize sign? c text' = sign' at hsign
          cases hsign with
          | some hread => exact hread
          | none => trivial

/-! ## Lines -/

theorem joinLine_returned (state : State) (htext : Returned text text') :
    Together Returned.Rest (joinLine state text) (joinLine state text') := by
  cases htext with
  | nil => trivial
  | char hline hreturn hrest => simp [joinLine, hline, hreturn, Together]
  | line hrest => exact ⟨rfl, hrest⟩
  | turn hrest => exact ⟨rfl, hrest⟩

/-- A character that neither ends a line nor comes right before a line end is taken alike. -/
theorem takeOne_returned (state : State) {c : Char} (hline : c ≠ '\n') (hreturn : c ≠ '\r')
    (htext : Returned text text') :
    Together Returned.Rest (takeOne state c text) (takeOne state c text') := by
  unfold takeOne
  rw [if_neg hline, if_neg hline]
  split
  · exact ⟨rfl, htext⟩
  · split
    · exact ⟨rfl, htext.dropWhile (by decide)⟩
    · split
      · exact joinLine_returned state htext
      · exact (readToken_returned state.line c hline hreturn htext).map
          fun _ _ hread => ⟨congrArg state.accept hread.1, hread.2⟩

theorem indentation_returned (htext : Returned text text') :
    Returned.Rest (indentation text) (indentation text') := by
  induction htext with
  | nil => exact ⟨rfl, .nil⟩
  | char hline hreturn hrest ih =>
      simp only [indentation]
      split
      · exact ⟨congrArg (· + 1) ih.1, ih.2⟩
      · split
        · exact ⟨congrArg (· + 4) ih.1, ih.2⟩
        · exact ⟨rfl, .char hline hreturn hrest⟩
  | line hrest => exact ⟨rfl, .line hrest⟩
  | turn hrest => exact ⟨rfl, .turn hrest⟩

theorem isBlankOrComment_returned (htext : Returned text text') :
    isBlankOrComment text' = isBlankOrComment text := by
  cases htext <;> rfl

theorem settleLine_returned (state : State) (htext : Returned text text') :
    Together Returned.Rest (settleLine state text) (settleLine state text') := by
  have hindentation := indentation_returned htext
  unfold settleLine
  split
  · unfold startLine
    dsimp only
    rw [isBlankOrComment_returned hindentation.2, ← hindentation.1]
    split
    · exact ⟨rfl, hindentation.2⟩
    · cases ({ state with atLineStart := false } : State).indentTo (indentation text).1 with
      | error error => trivial
      | ok next => exact ⟨rfl, hindentation.2⟩
  · exact ⟨rfl, htext⟩

/-! ## Sources -/

theorem scan_eq_bind (state : State) (c : Char) (rest : List Char) :
    scan state (c :: rest) = step state (c :: rest) >>= fun read => scan read.1 read.2 := by
  cases hstep : step state (c :: rest) with
  | error error =>
      rw [scan]
      split <;> simp_all
  | ok read => exact scan_cons hstep

theorem State.closeTo_begun (width : Nat) (indents : List Nat) (state : State) :
    (closeTo width indents state).atLineStart = state.atLineStart := by
  induction indents generalizing state with
  | nil => rfl
  | cons top rest ih =>
      rw [closeTo]
      split
      · exact ih _
      · rfl

/-- After the layout of a line has been read the line has begun. -/
theorem settleLine_begun {state next : State} {rest : List Char}
    (hsettle : settleLine state text = .ok (next, rest)) : next.atLineStart = false := by
  unfold settleLine at hsettle
  split at hsettle
  next =>
    unfold startLine at hsettle
    dsimp only at hsettle
    split at hsettle
    next =>
      cases hsettle
      rfl
    next =>
      obtain ⟨inner, hindent, hpair⟩ := map_eq_ok.mp hsettle
      cases hpair
      unfold State.indentTo at hindent
      dsimp only at hindent
      split at hindent
      next =>
        cases hindent
        rfl
      next =>
        split at hindent
        next =>
          split at hindent <;> cases hindent
          exact State.closeTo_begun _ _ _
        next =>
          cases hindent
          rfl
  next =>
    cases hsettle
    rfl

theorem step_lineEnd {state : State} (hbegun : state.atLineStart = false) (rest : List Char) :
    step state ('\n' :: rest) = .ok (state.nextLine, rest) := by
  have hstate : { state with atLineStart := false } = state := by rw [← hbegun]
  rw [step_eq, settleLine, if_neg (by simp [hbegun]), hstate]
  rfl

/-- Carriage returns before line ends are not seen when a source is scanned. -/
theorem scan_returned (htext : Returned text text') (state : State) :
    Together Eq (scan state text) (scan state text') := by
  induction hlength : text.length using Nat.strongRecOn generalizing text text' state with
  | ind length ih =>
  subst hlength
  obtain _ | ⟨c, rest⟩ := text
  · cases htext
    rw [scan]
    exact rfl
  obtain ⟨c', rest', rfl⟩ : ∃ c' rest', text' = c' :: rest' := by
    cases htext <;> exact ⟨_, _, rfl⟩
  rw [scan_eq_bind, scan_eq_bind, step_eq, step_eq]
  obtain ⟨error, error', hfirst, hsecond⟩ |
      ⟨⟨inner, left⟩, ⟨_, left'⟩, hfirst, hsecond, rfl, hleft⟩ :=
    (settleLine_returned state htext).cases
  · rw [hfirst, hsecond]
    trivial
  rw [hfirst, hsecond, ok_bind, ok_bind]
  have hsuffix := settleLine_suffix hfirst
  dsimp only at hleft
  cases hleft with
  | nil =>
      simp only [takeNext, ok_bind, scan]
      exact rfl
  | @char d left left' hline hreturn hleft =>
      obtain ⟨_, _, hfirst, hsecond⟩ | ⟨⟨next, after⟩, ⟨_, after'⟩, hfirst, hsecond, rfl, hafter⟩ :=
        (takeOne_returned inner hline hreturn hleft).cases
      · rw [takeNext, takeNext, hfirst, hsecond]
        trivial
      · rw [takeNext, takeNext, hfirst, hsecond]
        have hshort : after.length ≤ left.length := (takeOne_suffix hfirst).length_le
        have hleft := hsuffix.length_le
        rw [List.length_cons] at hleft
        exact ih after.length (by omega) hafter next rfl
  | @line left left' hleft =>
      have hshort := hsuffix.length_le
      rw [List.length_cons] at hshort
      exact ih _ (by omega) hleft inner.nextLine rfl
  | @turn left left' hleft =>
      -- The carriage return is passed over, and the line end after it is the next step.
      have hreturn : takeNext (inner, '\r' :: '\n' :: left') = .ok (inner, '\n' :: left') := rfl
      have hnext := scan_cons (step_lineEnd (settleLine_begun hfirst) left')
      rw [hreturn, ok_bind, hnext]
      have hshort := hsuffix.length_le
      rw [List.length_cons] at hshort
      exact ih _ (by omega) hleft inner.nextLine rfl

end SchemaGuard.Lexer
