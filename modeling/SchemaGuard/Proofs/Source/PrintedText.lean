import SchemaGuard.Proofs.Source.Spelling

/-! # Reading printed expressions

The text of a printed expression is scanned as the tokens of the expression, and these are read
as the expression itself.
-/

namespace SchemaGuard.Expr

open Lexer SchemaGuard.Parser

attribute [simp] print printList printLinks tokens itemTokens linkTokens

/-! ## The text of an expression -/

/-- What may come after a printed expression: a dot only after one that takes an attribute. -/
def Precedes (e : Expr) (rest : List Char) : Prop :=
  Follows rest ∧ (rest.head? = some '.' → e.isTight = true ∧ e.isInt = false)

theorem precedes_of_head? {e : Expr} {rest : List Char}
    (hrest : ∃ c ∈ [' ', ')', ']', ',', '[', '('], rest.head? = some c) : e.Precedes rest := by
  obtain ⟨c, hc, hhead⟩ := hrest
  have hcases : c ∈ followers ∧ c ≠ '.' := by
    simp only [List.mem_cons, List.not_mem_nil, or_false] at hc
    obtain rfl | rfl | rfl | rfl | rfl | rfl := hc <;> decide
  refine ⟨by simpa [Follows, hhead] using hcases.1, fun hdot => ?_⟩
  rw [hhead] at hdot
  exact absurd (Option.some.inj hdot) hcases.2

/-- The text of an expression is scanned as its tokens before whatever may come after it. -/
def Spelled (e : Expr) : Prop :=
  ∀ ⦃rest : List Char⦄, e.Precedes rest → Spells e.print.toList e.tokens rest

namespace Spelled

variable {e left right object : Expr} {name : String} {list : List Expr}

/-- An operation in parentheses, with its operator between blanks. -/
theorem operation {operator : String} {token : Token} {rest : List Char} (hleft : left.Spelled)
    (hright : right.Spelled)
    (hoperator : ∀ rest, Spells (" " ++ operator ++ " ").toList [token] rest) :
    Spells ("(" ++ left.print ++ " " ++ operator ++ " " ++ right.print ++ ")").toList
      (.leftParen :: (left.tokens ++ token :: (right.tokens ++ [Token.rightParen]))) rest := by
  have htext : Spells ("(".toList ++ (left.print.toList ++ ((" " ++ operator ++ " ").toList ++
      (right.print.toList ++ ")".toList))))
      ([Token.leftParen] ++ (left.tokens ++ ([token] ++ (right.tokens ++ [Token.rightParen])))) rest :=
    (spells_mark "(" _ (by simp [marks]) _).append
      ((hleft (precedes_of_head? (by simp))).append ((hoperator _).append
        ((hright (precedes_of_head? (by simp))).append (spells_mark ")" _ (by simp [marks]) _))))
  simpa using htext

theorem of_and (hleft : left.Spelled) (hright : right.Spelled) : (Expr.and left right).Spelled := by
  intro rest _
  have hoperator : ∀ rest, Spells (" " ++ "and" ++ " ").toList [.and] rest :=
    fun rest => by simpa using spells_mark " and " [.and] (by simp [marks]) rest
  simpa using operation hleft hright hoperator

theorem of_or (hleft : left.Spelled) (hright : right.Spelled) : (Expr.or left right).Spelled := by
  intro rest _
  have hoperator : ∀ rest, Spells (" " ++ "or" ++ " ").toList [.or] rest :=
    fun rest => by simpa using spells_mark " or " [.or] (by simp [marks]) rest
  simpa using operation hleft hright hoperator

theorem of_negate (he : e.Spelled) : (Expr.negate e).Spelled := by
  intro rest hrest
  have hinner : e.Precedes rest := ⟨hrest.1, fun hdot => nomatch (hrest.2 hdot).1⟩
  have htext := (spells_mark "-" [.minus] (by simp [marks]) _).append (he hinner)
  simpa using htext

theorem of_not (he : e.Spelled) : (Expr.not e).Spelled := by
  intro rest hrest
  have hinner : e.Precedes rest := ⟨hrest.1, fun hdot => nomatch (hrest.2 hdot).1⟩
  have htext := (spells_mark "not " [.not] (by simp [marks]) _).append (he hinner)
  simpa using htext

theorem of_attr (hobject : object.Spelled) (htight : object.isTight = true)
    (hint : object.isInt = false) (hname : IsIdentifier name) :
    (Expr.attr object name).Spelled := by
  intro rest hrest
  have hword := spells_word hname.1 hrest.1
  rw [hname.2] at hword
  have hdot : object.Precedes (".".toList ++ name.toList ++ rest) :=
    ⟨by simp [Follows, followers], fun _ => ⟨htight, hint⟩⟩
  have htext := (hobject hdot).append ((spells_mark "." [.dot] (by simp [marks]) _).append hword)
  simpa using htext

theorem of_index {position : Expr} (hobject : object.Spelled) (hposition : position.Spelled) :
    (Expr.index object position).Spelled := by
  intro rest _
  have htext : Spells (object.print.toList ++ ("[".toList ++ (position.print.toList ++
      "]".toList))) (object.tokens ++ ([Token.leftBracket] ++ (position.tokens ++
        [Token.rightBracket]))) rest :=
    (hobject (precedes_of_head? (by simp))).append ((spells_mark "[" _ (by simp [marks]) _).append
      ((hposition (precedes_of_head? (by simp))).append (spells_mark "]" _ (by simp [marks]) _)))
  simpa using htext

theorem of_cond {condition value other : Expr} (hcondition : condition.Spelled)
    (hvalue : value.Spelled) (hother : other.Spelled) :
    (Expr.cond condition value other).Spelled := by
  intro rest _
  have htext : Spells ("(".toList ++ (value.print.toList ++ (" if ".toList ++
      (condition.print.toList ++ (" else ".toList ++ (other.print.toList ++ ")".toList))))))
      ([Token.leftParen] ++ (value.tokens ++ ([Token.ifWord] ++ (condition.tokens ++
        ([Token.elseWord] ++ (other.tokens ++ [Token.rightParen])))))) rest :=
    (spells_mark "(" _ (by simp [marks]) _).append ((hvalue (precedes_of_head? (by simp))).append
      ((spells_mark " if " _ (by simp [marks]) _).append
        ((hcondition (precedes_of_head? (by simp))).append
          ((spells_mark " else " _ (by simp [marks]) _).append
            ((hother (precedes_of_head? (by simp))).append
              (spells_mark ")" _ (by simp [marks]) _))))))
  simpa using htext

/-- Printed expressions with commas between them, before a bracket that closes them. -/
theorem items {close : String} (hclose : close = ")" ∨ close = "]")
    (hlist : ∀ item ∈ list, item.Spelled) (rest : List Char) :
    Spells (String.intercalate ", " (Expr.printList list)).toList (itemTokens list)
      (close.toList ++ rest) := by
  induction list with
  | nil => exact fun _ _ => rfl
  | cons e list ih =>
      obtain ⟨he, hlist⟩ := List.forall_mem_cons.mp hlist
      cases list with
      | nil =>
          have hlast : Spells e.print.toList e.tokens (close.toList ++ rest) :=
            he (precedes_of_head? (by obtain rfl | rfl := hclose <;> simp))
          simpa using hlast
      | cons next list =>
          have htext := (he (precedes_of_head? (by simp))).append
            ((spells_mark ", " [.comma] (by simp [marks]) _).append (ih hlist))
          have hne : Expr.printList (next :: list) ≠ [] := List.cons_ne_nil _ _
          rw [Expr.printList, String.intercalate_cons_of_ne_nil hne, itemTokens]
          simpa using htext

theorem of_list (hlist : ∀ item ∈ list, item.Spelled) : (Expr.list list).Spelled := by
  intro rest _
  have htext := (spells_mark "[" [.leftBracket] (by simp [marks]) _).append
    ((items (.inr rfl) hlist rest).append (spells_mark "]" [.rightBracket] (by simp [marks]) rest))
  simpa using htext

theorem of_call (hobject : object.Spelled) (hlist : ∀ item ∈ list, item.Spelled) :
    (Expr.call object list).Spelled := by
  intro rest _
  have htext := (hobject (precedes_of_head? (by simp))).append
    ((spells_mark "(" [.leftParen] (by simp [marks]) _).append
      ((items (.inl rfl) hlist rest).append (spells_mark ")" [.rightParen] (by simp [marks]) rest)))
  simpa using htext

theorem head?_printLinks (links : List (CompareOp × Expr)) (rest : List Char) :
    ∃ c ∈ [' ', ')', ']', ',', '[', '('],
      ((Expr.printLinks links).toList ++ (")".toList ++ rest)).head? = some c := by
  cases links with
  | nil => simp
  | cons link links => simp

/-- The operators and operands of a comparison after the first, before what closes it. -/
theorem links {links : List (CompareOp × Expr)} (hlinks : ∀ link ∈ links, link.2.Spelled)
    (rest : List Char) :
    Spells (Expr.printLinks links).toList (linkTokens links) (")".toList ++ rest) := by
  induction links with
  | nil => exact fun _ _ => rfl
  | cons link links ih =>
      obtain ⟨op, e⟩ := link
      obtain ⟨he, hlinks⟩ := List.forall_mem_cons.mp hlinks
      have htext := (spells_comparison op _).append
        ((he (precedes_of_head? (head?_printLinks links rest))).append (ih hlinks))
      simpa using htext

theorem of_compare {first : Expr} {links : List (CompareOp × Expr)} (hfirst : first.Spelled)
    (hlinks : ∀ link ∈ links, link.2.Spelled) : (Expr.compare first links).Spelled := by
  intro rest _
  have hnext : first.Precedes ((Expr.printLinks links).toList ++ ")".toList ++ rest) := by
    rw [List.append_assoc]
    exact precedes_of_head? (head?_printLinks links rest)
  have htext := (spells_mark "(" [.leftParen] (by simp [marks]) _).append ((hfirst hnext).append
    ((Spelled.links hlinks rest).append (spells_mark ")" [.rightParen] (by simp [marks]) rest)))
  simpa using htext

end Spelled

mutual

/-- Every expression that can be read back is scanned as its tokens. -/
theorem spelled : ∀ {e : Expr}, e.Printable → e.Spelled
  | .null, _ => fun _ hrest => @spells_word "None" (by decide) _ hrest.1
  | .bool true, _ => fun _ hrest => @spells_word "True" (by decide) _ hrest.1
  | .bool false, _ => fun _ hrest => @spells_word "False" (by decide) _ hrest.1
  | .int _, hprintable => fun _ hrest =>
      spells_int hprintable.1 hprintable.2 hrest.1 fun hdot => nomatch (hrest.2 hdot).2
  | .str _, hprintable => fun _ _ => spells_string hprintable _
  | .var _, hprintable => fun _ hrest => by
      have hword := spells_word hprintable.1 hrest.1
      rwa [hprintable.2] at hword
  | .path _, hprintable => fun _ _ => spells_path hprintable.1 hprintable.2 _
  | .list _, hprintable => .of_list (spelled_all hprintable)
  | .binary op _ _, hprintable => fun _ _ =>
      Spelled.operation (spelled hprintable.2.2.1) (spelled hprintable.2.2.2) (spells_binary op)
  | .compare .., hprintable =>
      .of_compare (spelled hprintable.2.2.1) (spelled_links hprintable.2.2.2)
  | .negate _, hprintable => .of_negate (spelled hprintable.2)
  | .and .., hprintable => .of_and (spelled hprintable.1) (spelled hprintable.2)
  | .or .., hprintable => .of_or (spelled hprintable.1) (spelled hprintable.2)
  | .not _, hprintable => .of_not (spelled hprintable)
  | .attr .., hprintable =>
      .of_attr (spelled hprintable.2.2.1) hprintable.1 hprintable.2.1 hprintable.2.2.2
  | .index .., hprintable => .of_index (spelled hprintable.2.1) (spelled hprintable.2.2)
  | .call .., hprintable => .of_call (spelled hprintable.2.1) (spelled_all hprintable.2.2)
  | .cond .., hprintable =>
      .of_cond (spelled hprintable.1) (spelled hprintable.2.1) (spelled hprintable.2.2)

theorem spelled_all : ∀ {list : List Expr}, PrintableAll list → ∀ item ∈ list, item.Spelled
  | [], _ => nofun
  | _ :: _, hlist => List.forall_mem_cons.mpr ⟨spelled hlist.1, spelled_all hlist.2⟩

theorem spelled_links : ∀ {links : List (CompareOp × Expr)}, PrintableLinks links →
    ∀ link ∈ links, link.2.Spelled
  | [], _ => nofun
  | (_, _) :: _, hlinks =>
      List.forall_mem_cons.mpr ⟨spelled hlinks.2.1, spelled_links hlinks.2.2⟩

end

/-! ## The ends of printed expressions -/

/-- Characters with which a printed expression begins and ends. -/
def isEdge (c : Char) : Bool :=
  isNameChar c || ['"', '[', ']', '(', ')', '\x7b', '\x7d', '-'].contains c

theorem of_isEdge {c : Char} (hc : isEdge c = true) : Unicode.isBlank c = false ∧ c ≠ '#' := by
  obtain hname | hmem := Bool.or_eq_true_iff.mp hc
  · refine ⟨isBlank_of_isNameChar hname, ?_⟩
    rintro rfl
    cases hname
  · have hothers : (['"', '[', ']', '(', ')', '\x7b', '\x7d', '-'].all
        (fun c => !Unicode.isBlank c && c != '#')) = true := by decide
    simpa using List.all_eq_true.mp hothers c (List.contains_iff_mem.mp hmem)

/-- A text that begins and ends as printed expressions do. -/
structure Edged (text : List Char) : Prop where
  first : ∃ c, text.head? = some c ∧ isEdge c = true
  last : ∃ c, text.getLast? = some c ∧ isEdge c = true

theorem edged_of_isNameChar {text : List Char} (hne : text ≠ [])
    (htext : ∀ c ∈ text, isNameChar c = true) : Edged text := by
  have hedge : ∀ c ∈ text, isEdge c = true :=
    fun c hc => Bool.or_eq_true_iff.mpr (.inl (htext c hc))
  exact ⟨⟨_, List.head?_eq_some_head hne, hedge _ (List.head_mem hne)⟩,
    ⟨_, List.getLast?_eq_some_getLast hne, hedge _ (List.getLast_mem hne)⟩⟩

theorem edged_of_isName {name : List Char} (hname : isName name = true) : Edged name :=
  edged_of_isNameChar (by rintro rfl; cases hname) fun _ hc => isNameChar_of_mem hname hc

theorem edged_print : ∀ {e : Expr}, e.Printable → Edged e.print.toList
  | .null, _ => @edged_of_isName "None".toList (by decide)
  | .bool true, _ => @edged_of_isName "True".toList (by decide)
  | .bool false, _ => @edged_of_isName "False".toList (by decide)
  | .int n, hprintable => by
      obtain ⟨n, rfl⟩ := Int.eq_ofNat_of_zero_le hprintable.1
      have htext : (Expr.int n).print.toList = Nat.toDigits 10 n := Nat.toList_repr
      rw [htext]
      exact edged_of_isNameChar Nat.toDigits_ne_nil fun c hc =>
        isNameChar_of_isDigit (isDigit_of_mem_toDigits hc)
  | .var _, hprintable => edged_of_isName hprintable.1
  | .str _, _ => by
      rw [Expr.print, Text.Quoted.quoteString, String.toList_ofList, Text.Quoted.quote]
      exact ⟨⟨'"', by simp, by decide⟩, ⟨'"', by simp [List.getLast?_cons], by decide⟩⟩
  | .list _, _ =>
      ⟨⟨'[', by simp, by decide⟩, ⟨']', by simp [List.getLast?_cons], by decide⟩⟩
  | .path _, _ =>
      ⟨⟨'\x7b', by simp, by decide⟩,
        ⟨'\x7d', by simp [List.getLast?_cons], by decide⟩⟩
  | .binary .., _ | .compare .., _ | .and .., _ | .or .., _ | .cond .., _ =>
      ⟨⟨'(', by simp, by decide⟩, ⟨')', by simp [List.getLast?_cons], by decide⟩⟩
  | .negate _, hprintable => by
      obtain ⟨c, hlast, hc⟩ := (edged_print hprintable.2).last
      exact ⟨⟨'-', by simp, by decide⟩,
        ⟨c, by simp [List.getLast?_cons, hlast], hc⟩⟩
  | .not e, hprintable => by
      obtain ⟨c, hlast, hc⟩ := (edged_print (e := e) hprintable).last
      exact ⟨⟨'n', by simp, by decide⟩,
        ⟨c, by simp [List.getLast?_cons, hlast], hc⟩⟩
  | .attr .., hprintable => by
      obtain ⟨c, hfirst, hc⟩ := (edged_print hprintable.2.2.1).first
      obtain ⟨d, hlast, hd⟩ := (edged_of_isName hprintable.2.2.2.1).last
      exact ⟨⟨c, by simp [hfirst], hc⟩, ⟨d, by simp [List.getLast?_cons, hlast], hd⟩⟩
  | .index .., hprintable => by
      obtain ⟨c, hfirst, hc⟩ := (edged_print hprintable.2.1).first
      exact ⟨⟨c, by simp [hfirst], hc⟩,
        ⟨']', by simp [List.getLast?_cons], by decide⟩⟩
  | .call .., hprintable => by
      obtain ⟨c, hfirst, hc⟩ := (edged_print hprintable.2.1).first
      exact ⟨⟨c, by simp [hfirst], hc⟩,
        ⟨')', by simp [List.getLast?_cons], by decide⟩⟩

theorem Edged.trim {text : List Char} (htext : Edged text) : Text.trim text = text := by
  obtain ⟨c, hfirst, hc⟩ := htext.first
  obtain ⟨d, hlast, hd⟩ := htext.last
  have hkeep : ∀ {text : List Char} {c : Char}, text.head? = some c → isEdge c = true →
      text.dropWhile Unicode.isBlank = text := by
    intro text c hhead hc
    obtain ⟨rest, rfl⟩ := List.head?_eq_some_iff.mp hhead
    rw [List.dropWhile_cons, (of_isEdge hc).1]
    rfl
  rw [Text.trim, Text.trimLeft, hkeep hfirst hc, Text.dropTrailing,
    hkeep (List.head?_reverse.trans hlast) hd, List.reverse_reverse]

/-! ## Printing and reading -/

theorem beginsLine_print {e : Expr} (hprintable : e.Printable) :
    Lexer.beginsLine e.print.toList = true := by
  obtain ⟨c, hfirst, hc⟩ := (edged_print hprintable).first
  obtain ⟨rest, hrest⟩ := List.head?_eq_some_iff.mp hfirst
  obtain ⟨hblank, hcomment⟩ := of_isEdge hc
  rw [hrest, Lexer.beginsLine, decide_eq_true_eq]
  simp only [List.mem_cons, List.not_mem_nil, or_false]
  rintro (rfl | rfl | rfl | rfl | rfl)
  · cases hblank
  · cases hblank
  · cases hblank
  · cases hblank
  · exact hcomment rfl

/-- What is printed of an expression is read as this expression, if three levels are permitted for
each level of its tree and the text is not too long. -/
theorem parse_print {limits : ParseLimits} {e : Expr} (hprintable : e.Printable)
    (hdepth : 3 * e.depth ≤ limits.maxDepth) (hlength : e.print.utf8ByteSize ≤ limits.maxLength) :
    Expr.parse limits e.print = .ok e := by
  have hspells : Lexer.Spells e.print.toList e.tokens [] :=
    spelled hprintable ⟨nofun, nofun⟩
  obtain ⟨ending, hending, hlexemes⟩ :=
    Lexer.lexemes_of_spells (beginsLine_print hprintable) hspells
  have htokens : Parser.tokens limits (Text.trim e.print.toList) =
      .ok (oneLine e.tokens ++ oneLine ending) := by
    rw [(edged_print hprintable).trim, Parser.tokens, String.ofList_toList,
      if_neg (Nat.not_lt.mpr hlength), hlexemes]
  have hread : Reaches (fun fuel => expression limits fuel 0
      (oneLine e.tokens ++ oneLine ending)) (e, oneLine ending) := by
    refine (readsBack hprintable).expression (by omega) ?_
    obtain rfl | rfl := hending <;> exact Nat.one_pos
  have hend : current (skipNewlines (oneLine ending)) = .eof := by
    obtain rfl | rfl := hending <;> rfl
  rw [Expr.parse, htokens, Outcome.ok_bind, wholeExpression_of_reaches hread hend]
  rfl

/-- A choice with a chain of comparisons, whose operands have signs, calls and attributes. -/
def surcharge : Expr :=
  .cond
    (.and
      (.compare (.negate (.int 1))
        [(.notIn, .list [.var "rate", .str "a \"b\"\n"]), (.isNotSame, .path ["order", "total"])])
      (.not (.not (.or .null (.bool true)))))
    (.binary .add (.binary .floorDivide (.int 12) (.var "n"))
      (.call (.attr (.index (.var "rows") (.int 0)) "max") [.bool false, .list []]))
    (.negate (.negate (.var "fallback")))

/-- The surcharge is printed and read with the limits that hold by default. -/
theorem surcharge_read_back :
    surcharge.Printable ∧ Expr.parse {} surcharge.print = .ok surcharge := by
  have hnames : ["rate", "n", "rows", "max", "fallback"].all
      (fun name => decide (IsIdentifier name)) = true := by decide
  have hprintable : surcharge.Printable := by
    simp only [List.all_cons, Bool.and_eq_true, decide_eq_true_eq] at hnames
    simp [surcharge, Printable, PrintableAll, PrintableLinks, hnames]
    decide
  exact ⟨hprintable, parse_print hprintable (by decide) (by cbv)⟩

/-- A path without names is printed like any other, and is refused where it is read. -/
theorem emptyPath_never_read_back : (∀ part ∈ ([] : List String), Lexer.isName part.toList = true) ∧
    ¬ ∃ limits, Expr.parse limits (Expr.path []).print = .ok (.path []) := by
  refine ⟨nofun, ?_⟩
  rintro ⟨limits, hparse⟩
  have htext : Text.trim (Expr.path []).print.toList = "\x7b\x7d".toList := by decide
  have hlexemes : Lexer.lexemes "\x7b\x7d" = .error (.invalidVariable "" 1) := by cbv
  rw [Expr.parse, htext, Parser.tokens, String.ofList_toList] at hparse
  split at hparse
  · cases hparse
  · rw [hlexemes] at hparse
    cases hparse

end SchemaGuard.Expr
