import SchemaGuard.Settings
import Mathlib.Data.List.TakeWhile

/-! # References to variables

A text is taken apart from left to right into references and single characters, in one way only
and whatever the values of the variables are. Substitution replaces each reference by its value and
keeps the characters. So no value is searched for references, and texts may be joined before or
after substitution unless a reference could reach from the first one into the second.
-/

namespace SchemaGuard.Variables

variable {text first second written name default rest : List Char}

/-! ## Written references -/

/-- The name of a variable within a reference. -/
structure IsName (name : List Char) : Prop where
  nonempty : name ≠ []
  colon : ':' ∉ name
  brace : '\x7d' ∉ name

/-- A reference as it is written, with the name of the variable and the default. After a colon
comes the default, with or without a hyphen before it. -/
inductive Refers : List Char → List Char → List Char → Prop
  | plain {name : List Char} (hname : IsName name) :
      Refers ('$' :: '\x7b' :: (name ++ ['\x7d'])) name []
  | colon {name default : List Char} (hname : IsName name) (hbrace : '\x7d' ∉ default)
      (hhyphen : default.head? ≠ some '-') :
      Refers ('$' :: '\x7b' :: (name ++ ':' :: (default ++ ['\x7d']))) name default
  | hyphen {name default : List Char} (hname : IsName name) (hbrace : '\x7d' ∉ default) :
      Refers ('$' :: '\x7b' :: (name ++ ':' :: '-' :: (default ++ ['\x7d']))) name default

/-- A reference ends with the first closing brace. -/
theorem Refers.closed (hwritten : Refers written name default) :
    ∃ body, written = '$' :: '\x7b' :: (body ++ ['\x7d']) ∧ '\x7d' ∉ body := by
  cases hwritten with
  | plain hname => exact ⟨name, rfl, hname.brace⟩
  | colon hname hbrace _ =>
      refine ⟨name ++ ':' :: default, by simp, ?_⟩
      simp [hname.brace, hbrace]
  | hyphen hname hbrace =>
      refine ⟨name ++ ':' :: '-' :: default, by simp, ?_⟩
      simp [hname.brace, hbrace]

/-! ## Reading a reference -/

theorem takeWhile_stop {p : Char → Bool} {c : Char} (htext : ∀ d ∈ text, p d = true)
    (hc : p c = false) : (text ++ c :: rest).takeWhile p = text := by
  rw [List.takeWhile_append_of_pos htext, List.takeWhile_cons_of_neg (by simp [hc]),
    List.append_nil]

theorem IsName.takeWhile (hname : IsName name) {c : Char} (hc : c = ':' ∨ c = '\x7d') :
    (name ++ c :: rest).takeWhile (fun c => c != ':' && c != '\x7d') = name := by
  refine takeWhile_stop (fun d hd => ?_) (by rcases hc with rfl | rfl <;> rfl)
  have hcolon : d ≠ ':' := fun heq => hname.colon (heq ▸ hd)
  have hbrace : d ≠ '\x7d' := fun heq => hname.brace (heq ▸ hd)
  simp [hcolon, hbrace]

theorem takeWhile_brace (hbrace : '\x7d' ∉ default) :
    (default ++ '\x7d' :: rest).takeWhile (· != '\x7d') = default := by
  refine takeWhile_stop (fun d hd => ?_) rfl
  have hother : d ≠ '\x7d' := fun heq => hbrace (heq ▸ hd)
  simp [hother]

theorem drop_takeWhile_length (p : Char → Bool) (text : List Char) :
    text.drop (text.takeWhile p).length = text.dropWhile p := by
  have hsplit : text.takeWhile p ++ text.drop (text.takeWhile p).length = text :=
    List.prefix_iff_eq_append.mp (List.takeWhile_prefix p)
  exact List.append_cancel_left (hsplit.trans List.takeWhile_append_dropWhile.symm)

/-- What stands after a colon, without the hyphen. -/
def unmarked : List Char → List Char
  | '-' :: rest => rest
  | rest => rest

theorem unmarked_of_ne (hhyphen : text.head? ≠ some '-') : unmarked text = text := by
  unfold unmarked
  split
  next => exact absurd rfl hhyphen
  next => rfl

theorem reference?_brace (hname : IsName name) (rest : List Char) :
    reference? (name ++ '\x7d' :: rest) = some (String.ofList name, none, rest) := by
  unfold reference?
  dsimp only
  rw [hname.takeWhile (.inr rfl), if_neg (by simp [hname.nonempty]), List.drop_left]
  rfl

theorem reference?_colon (hname : IsName name) (after : List Char) :
    reference? (name ++ ':' :: after) =
      match (unmarked after).drop ((unmarked after).takeWhile (· != '\x7d')).length with
      | _ :: rest =>
          some (String.ofList name, some (String.ofList ((unmarked after).takeWhile (· != '\x7d'))),
            rest)
      | [] => none := by
  unfold reference?
  dsimp only
  rw [hname.takeWhile (.inl rfl), if_neg (by simp [hname.nonempty]), List.drop_left]
  rfl

/-- A reference is found where it is written. -/
theorem Refers.found (hwritten : Refers written name default) (rest : List Char) :
    ∃ text found, written ++ rest = '$' :: '\x7b' :: text ∧
      reference? text = some (String.ofList name, found, rest) ∧
      found.getD "" = String.ofList default := by
  cases hwritten with
  | plain hname => exact ⟨name ++ '\x7d' :: rest, none, by simp, reference?_brace hname rest, rfl⟩
  | colon hname hbrace hhyphen =>
      have hmark : unmarked (default ++ '\x7d' :: rest) = default ++ '\x7d' :: rest := by
        refine unmarked_of_ne ?_
        cases default with
        | nil => simp
        | cons d default => exact hhyphen
      refine ⟨name ++ ':' :: (default ++ '\x7d' :: rest), some (String.ofList default), by simp, ?_,
        rfl⟩
      rw [reference?_colon hname, hmark, takeWhile_brace hbrace, List.drop_left]
  | hyphen hname hbrace =>
      have hmark : unmarked ('-' :: (default ++ '\x7d' :: rest)) = default ++ '\x7d' :: rest := rfl
      refine ⟨name ++ ':' :: '-' :: (default ++ '\x7d' :: rest), some (String.ofList default),
        by simp, ?_, rfl⟩
      rw [reference?_colon hname, hmark, takeWhile_brace hbrace, List.drop_left]

/-- A reference is found only behind a name that a colon or a closing brace ends. -/
theorem exists_name_of_reference? (hfound : (reference? text).isSome) :
    ∃ name c rest, IsName name ∧ (c = ':' ∨ c = '\x7d') ∧ text = name ++ c :: rest := by
  have hsplit := List.takeWhile_append_dropWhile (p := fun c => c != ':' && c != '\x7d') (l := text)
  unfold reference? at hfound
  dsimp only at hfound
  rw [drop_takeWhile_length] at hfound
  split at hfound
  next => cases hfound
  next hnonempty =>
    have hname : IsName (text.takeWhile fun c => c != ':' && c != '\x7d') := by
      refine ⟨by simpa using hnonempty, fun hcolon => ?_, fun hbrace => ?_⟩
      · cases List.mem_takeWhile_imp hcolon
      · cases List.mem_takeWhile_imp hbrace
    split at hfound
    next after hafter => exact ⟨_, _, after, hname, .inr rfl, by rw [← hafter, hsplit]⟩
    next after hafter => exact ⟨_, _, after, hname, .inl rfl, by rw [← hafter, hsplit]⟩
    next => cases hfound

/-- What is found is written there. -/
theorem refers_of_reference? {word : String} {found : Option String}
    (hfound : reference? text = some (word, found, rest)) :
    ∃ written, Refers written word.toList (found.getD "").toList ∧
      written ++ rest = '$' :: '\x7b' :: text := by
  obtain ⟨name, c, after, hname, rfl | rfl, rfl⟩ :=
    exists_name_of_reference? (Option.isSome_of_eq_some hfound)
  · rw [reference?_colon hname, drop_takeWhile_length] at hfound
    split at hfound
    next c rest hclose =>
      cases hfound
      rw [String.toList_ofList, Option.getD_some, String.toList_ofList]
      have hsplit := List.takeWhile_append_dropWhile (p := (· != '\x7d')) (l := unmarked after)
      have hbrace : '\x7d' ∉ (unmarked after).takeWhile (· != '\x7d') := by
        intro hmem
        cases List.mem_takeWhile_imp hmem
      have hc : c = '\x7d' := by
        have hstop := List.head?_dropWhile_not (· != '\x7d') (unmarked after)
        rw [hclose] at hstop
        simpa using hstop
      rw [hclose, hc] at hsplit
      generalize (unmarked after).takeWhile (· != '\x7d') = default at hsplit hbrace ⊢
      by_cases hhyphen : after.head? = some '-'
      · obtain ⟨marked, rfl⟩ := List.head?_eq_some_iff.mp hhyphen
        have hmarked : default ++ '\x7d' :: rest = marked := hsplit
        exact ⟨_, .hyphen hname hbrace, by simp [← hmarked]⟩
      · rw [unmarked_of_ne hhyphen] at hsplit
        rw [← hsplit, List.head?_append] at hhyphen
        refine ⟨_, .colon hname hbrace fun heq => hhyphen ?_, by simp [← hsplit]⟩
        rw [heq, Option.some_or]
    next => cases hfound
  · rw [reference?_brace hname] at hfound
    cases hfound
    rw [String.toList_ofList]
    exact ⟨_, .plain hname, by simp⟩

/-! ## Reading a text -/

/-- Whether a reference is written at the start of a text. -/
def BeginsReference (text : List Char) : Prop :=
  ∃ written name default rest, Refers written name default ∧ written ++ rest = text

/-- A part of a text. -/
inductive Piece where
  | character (c : Char)
  | reference (name default : List Char)

/-- What substitution puts in the place of a part. -/
def Piece.value (lookup : Variables) : Piece → List Char
  | character c => [c]
  | reference name default =>
      ((lookup (String.ofList name)).getD (String.ofList default)).toList

/-- The parts of a text from left to right. A character is a part of its own only where no reference
begins. -/
inductive Reads : List Char → List Piece → Prop
  | done : Reads [] []
  | reference {text written name default rest : List Char} {pieces : List Piece}
      (hwritten : Refers written name default) (htext : written ++ rest = text)
      (hrest : Reads rest pieces) : Reads text (.reference name default :: pieces)
  | character {c : Char} {rest : List Char} {pieces : List Piece}
      (hplain : ¬ BeginsReference (c :: rest)) (hrest : Reads rest pieces) :
      Reads (c :: rest) (.character c :: pieces)

variable {pieces others : List Piece}

/-- No two references begin at the same place. -/
theorem Refers.unique {written' name' default' rest' : List Char}
    (hwritten : Refers written name default) (hwritten' : Refers written' name' default')
    (heq : written ++ rest = written' ++ rest') :
    name' = name ∧ default' = default ∧ rest' = rest := by
  obtain ⟨text, found, htext, hfound, hdefault⟩ := hwritten.found rest
  obtain ⟨text', found', htext', hfound', hdefault'⟩ := hwritten'.found rest'
  rw [htext, htext'] at heq
  cases heq
  rw [hfound, Option.some.injEq, Prod.mk.injEq, Prod.mk.injEq, String.ofList_inj] at hfound'
  obtain ⟨rfl, rfl, rfl⟩ := hfound'
  exact ⟨rfl, String.ofList_inj.mp (hdefault'.symm.trans hdefault), rfl⟩

theorem Refers.length_pos (hwritten : Refers written name default) : 0 < written.length := by
  obtain ⟨body, rfl, -⟩ := hwritten.closed
  exact Nat.zero_lt_succ _

theorem Refers.append_ne_nil (hwritten : Refers written name default) : written ++ rest ≠ [] := by
  obtain ⟨body, rfl, -⟩ := hwritten.closed
  exact List.cons_ne_nil _ _

/-- A text is read in one way only. -/
theorem Reads.unique (hpieces : Reads text pieces) (hothers : Reads text others) :
    others = pieces := by
  induction hpieces generalizing others with
  | done =>
      cases hothers with
      | done => rfl
      | reference hwritten htext _ => exact absurd htext hwritten.append_ne_nil
  | reference hwritten htext hrest ih =>
      cases hothers with
      | done => exact absurd htext hwritten.append_ne_nil
      | reference hwritten' htext' hrest' =>
          obtain ⟨rfl, rfl, rfl⟩ := hwritten.unique hwritten' (htext.trans htext'.symm)
          rw [ih hrest']
      | character hplain _ => exact absurd ⟨_, _, _, _, hwritten, htext⟩ hplain
  | character hplain hrest ih =>
      cases hothers with
      | reference hwritten htext _ => exact absurd ⟨_, _, _, _, hwritten, htext⟩ hplain
      | character _ hrest' => rw [ih hrest']

theorem exists_reads (text : List Char) : ∃ pieces, Reads text pieces := by
  induction hlength : text.length using Nat.strong_induction_on generalizing text with
  | h length ih =>
      subst hlength
      cases text with
      | nil => exact ⟨[], .done⟩
      | cons c rest =>
          by_cases hbegins : BeginsReference (c :: rest)
          · obtain ⟨written, name, default, after, hwritten, htext⟩ := hbegins
            have hshorter : after.length < (c :: rest).length := by
              have hpos := hwritten.length_pos
              rw [← htext, List.length_append]
              omega
            obtain ⟨pieces, hpieces⟩ := ih _ hshorter after rfl
            exact ⟨_, .reference hwritten htext hpieces⟩
          · obtain ⟨pieces, hpieces⟩ := ih _ (Nat.lt_succ_self _) rest rfl
            exact ⟨_, .character hbegins hpieces⟩

/-! ## Substitution -/

/-- Substitution puts the value of each part in its place. -/
theorem Reads.substituteFrom_eq (hpieces : Reads text pieces) (lookup : Variables) {steps : Nat}
    (hsteps : text.length ≤ steps) :
    substituteFrom lookup steps text = pieces.flatMap (Piece.value lookup) := by
  induction hpieces generalizing steps with
  | done => cases steps <;> rfl
  | @reference text written name default rest pieces hwritten htext hrest ih =>
      obtain ⟨after, found, hafter, hfound, hdefault⟩ := hwritten.found rest
      have hpos := hwritten.length_pos
      rw [← htext, List.length_append] at hsteps
      cases steps with
      | zero => omega
      | succ steps =>
          rw [← htext, hafter, substituteFrom, hfound]
          dsimp only
          rw [hdefault, ih (by omega), List.flatMap_cons, Piece.value]
  | @character c rest pieces hplain hrest ih =>
      rw [List.length_cons] at hsteps
      cases steps with
      | zero => omega
      | succ steps =>
          rw [List.flatMap_cons, Piece.value, List.singleton_append,
            ← ih (Nat.le_of_succ_le_succ hsteps)]
          by_cases hopening : ∃ after, c :: rest = '$' :: '\x7b' :: after
          · obtain ⟨after, heq⟩ := hopening
            cases heq
            have hnone : reference? after = none := by
              cases hfound : reference? after with
              | none => rfl
              | some found =>
                  obtain ⟨written, hwritten, htext⟩ := refers_of_reference? hfound
                  exact absurd ⟨_, _, _, _, hwritten, htext⟩ hplain
            rw [substituteFrom, hnone]
          · rw [substituteFrom]
            rintro after rfl rfl
            exact hopening ⟨after, rfl⟩

theorem Reads.substitute_eq {text : String} (hpieces : Reads text.toList pieces)
    (lookup : Variables) :
    lookup.substitute text = String.ofList (pieces.flatMap (Piece.value lookup)) := by
  rw [substitute, hpieces.substituteFrom_eq lookup (Nat.le_of_eq String.length_toList)]

/-! ## Texts behind one another -/

/-- Every opening of a reference is followed later by a closing brace. -/
def Closes (text : List Char) : Prop :=
  ∀ before after, text = before ++ '$' :: '\x7b' :: after → '\x7d' ∈ after

theorem Closes.of_append (first : List Char) (hcloses : Closes (first ++ second)) :
    Closes second := by
  rintro before after rfl
  exact hcloses (first ++ before) after (List.append_assoc ..).symm

theorem getLast?_of_append (first : List Char) {c : Char}
    (hlast : (first ++ second).getLast? ≠ some c) : second.getLast? ≠ some c := by
  rw [List.getLast?_append] at hlast
  intro hsecond
  rw [hsecond, Option.some_or] at hlast
  exact hlast rfl

/-- What is written behind a text makes no reference of a dollar sign in it. -/
theorem begins_of_append {c : Char} (hbegins : BeginsReference (c :: (first ++ second)))
    (hlast : (c :: first).getLast? ≠ some '$') (hcloses : Closes (c :: first)) :
    BeginsReference (c :: first) := by
  obtain ⟨written, name, default, rest, hwritten, htext⟩ := hbegins
  obtain ⟨body, rfl, hbody⟩ := hwritten.closed
  cases first with
  | nil =>
      cases htext
      exact absurd rfl hlast
  | cons d first =>
      simp only [List.cons_append, List.append_assoc, List.cons.injEq] at htext
      obtain ⟨rfl, rfl, htext⟩ := htext
      have hbrace := hcloses [] first rfl
      -- The brace that closes the reference is the first one, and the first text has one.
      obtain ⟨tail, rfl, htail⟩ | ⟨tail, rfl, -⟩ := List.append_eq_append_iff.mp htext
      · cases tail with
        | nil =>
            rw [List.append_nil] at hbrace
            exact absurd hbrace hbody
        | cons brace tail =>
            cases htail
            exact ⟨_, name, default, tail, hwritten, by simp⟩
      · exact absurd (List.mem_append_left tail hbrace) hbody

theorem Reads.append (hfirst : Reads first pieces) (hsecond : Reads second others)
    (hlast : first.getLast? ≠ some '$') (hcloses : Closes first) :
    Reads (first ++ second) (pieces ++ others) := by
  induction hfirst with
  | done => exact hsecond
  | reference hwritten htext hrest ih =>
      subst htext
      rw [List.append_assoc]
      exact .reference hwritten rfl (ih (getLast?_of_append _ hlast) (hcloses.of_append _))
  | @character c rest pieces hplain hrest ih =>
      refine .character (fun hbegins => hplain (begins_of_append hbegins hlast hcloses)) ?_
      exact ih (getLast?_of_append [c] hlast) (Closes.of_append [c] hcloses)

/-- Reading takes every text apart in just one way, and substitution puts in the place of each
reference the value of the variable, or the default if there is none, and keeps the other
characters. So it comes to the same to substitute in two texts and to join them, or to join them
first, if the first one does not end with a dollar sign and closes what it opens. -/
theorem substitute_local (first : String) :
    (∃ pieces, Reads first.toList pieces ∧
        (∀ others, Reads first.toList others → others = pieces) ∧
        ∀ lookup : Variables,
          lookup.substitute first = String.ofList (pieces.flatMap (Piece.value lookup))) ∧
      (first.toList.getLast? ≠ some '$' → Closes first.toList →
        ∀ (lookup : Variables) (second : String),
          lookup.substitute (first ++ second) =
            lookup.substitute first ++ lookup.substitute second) := by
  obtain ⟨pieces, hpieces⟩ := exists_reads first.toList
  refine ⟨⟨pieces, hpieces, fun others => hpieces.unique, hpieces.substitute_eq⟩, ?_⟩
  intro hlast hcloses lookup second
  obtain ⟨others, hothers⟩ := exists_reads second.toList
  have hboth : Reads (first ++ second).toList (pieces ++ others) := by
    rw [String.toList_append]
    exact hpieces.append hothers hlast hcloses
  rw [hboth.substitute_eq, hpieces.substitute_eq, hothers.substitute_eq, List.flatMap_append,
    String.ofList_append]

/-- A text that ends with a closing brace closes what it opens. -/
theorem closes_of_getLast? (hlast : text.getLast? = some '\x7d') : Closes text := by
  rintro before after rfl
  rw [List.getLast?_append] at hlast
  cases after with
  | nil => cases hlast
  | cons c after =>
      have hafter : (c :: after).getLast? = some '\x7d' := by simpa using hlast
      exact List.mem_of_getLast? hafter

/-- A default that opens a reference stays as it is, also before a text that would close it. -/
theorem substitute_opening_default :
    let lookup : Variables := fun name => if name = "B" then some "1" else none
    let first := "$$\x7bA:-$\x7b\x7d"
    let second := "B\x7d $\x7bB\x7d"
    first.toList.getLast? ≠ some '$' ∧ Closes first.toList ∧
      lookup.substitute (first ++ second) = "$$\x7bB\x7d 1" := by
  intro lookup first second
  have hlast : first.toList.getLast? = some '\x7d' := by decide
  have hend : first.toList.getLast? ≠ some '$' := by decide
  have hcloses := closes_of_getLast? hlast
  refine ⟨hend, hcloses, ?_⟩
  rw [(substitute_local first).2 hend hcloses lookup second]
  decide

end SchemaGuard.Variables
