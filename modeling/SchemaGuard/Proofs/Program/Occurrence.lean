import SchemaGuard.Proofs.Program.Uses

/-! # Where names stand in a program

An expression stands in a program when it is part of an expression that some statement holds,
however deep, and whether or not the statement is ever reached. The structural screen accepts a
program exactly when no refused name stands anywhere in it in a place for names, and no attribute
with two underscores at either end in a place for attributes. Of several it reports the first
use that it meets.
-/

namespace SchemaGuard

/-! ## Parts of programs -/

namespace Expr

/-- The expressions that an expression is put together from. -/
def children : Expr → List Expr
  | .null | .bool _ | .int _ | .float _ | .str _ | .var _ | .path _ => []
  | .list items => items
  | .binary _ l r | .and l r | .or l r | .index l r => [l, r]
  | .compare first links => first :: links.map Prod.snd
  | .negate e | .not e | .attr e _ => [e]
  | .call callee args => callee :: args
  | .cond c t e => [c, t, e]

/-- An expression is part of itself and of every expression that is put together from one that it is
part of. -/
inductive PartOf (part : Expr) : Expr → Prop
  | self : PartOf part part
  | child {whole child : Expr} (hchild : child ∈ whole.children) (hpart : PartOf part child) :
      PartOf part whole

theorem PartOf.trans {part middle whole : Expr} (hpart : PartOf part middle)
    (hmiddle : PartOf middle whole) : PartOf part whole := by
  induction hmiddle with
  | self => exact hpart
  | child hchild _ ih => exact .child hchild ih

theorem sizeOf_child {whole child : Expr} (hchild : child ∈ whole.children) :
    sizeOf child < sizeOf whole := by
  cases whole with
  | list items =>
      rw [children] at hchild
      have hitem := List.sizeOf_lt_of_mem hchild
      simp only [list.sizeOf_spec]
      omega
  | call callee args =>
      rw [children, List.mem_cons] at hchild
      simp only [call.sizeOf_spec]
      obtain rfl | harg := hchild
      · omega
      · have hsize := List.sizeOf_lt_of_mem harg
        omega
  | compare first links =>
      rw [children, List.mem_cons, List.mem_map] at hchild
      simp only [compare.sizeOf_spec]
      obtain rfl | ⟨⟨op, operand⟩, hlink, rfl⟩ := hchild
      · omega
      · have hsize := List.sizeOf_lt_of_mem hlink
        simp only [Prod.mk.sizeOf_spec] at hsize
        show sizeOf operand < _
        omega
  | binary op l r | and l r | or l r | index l r =>
      simp only [children, List.mem_cons, List.not_mem_nil, or_false] at hchild
      simp only [binary.sizeOf_spec, and.sizeOf_spec, or.sizeOf_spec, index.sizeOf_spec]
      obtain rfl | rfl := hchild <;> omega
  | negate e | not e | attr e name =>
      obtain rfl := List.mem_singleton.mp hchild
      simp only [negate.sizeOf_spec, not.sizeOf_spec, attr.sizeOf_spec]
      omega
  | cond c t e =>
      simp only [children, List.mem_cons, List.not_mem_nil, or_false] at hchild
      simp only [cond.sizeOf_spec]
      obtain rfl | rfl | rfl := hchild <;> omega
  | _ => cases hchild

end Expr

namespace Statement

/-- The expressions that a statement holds itself. -/
def operands : Statement → List Expr
  | .expr e => [e]
  | .assign _ value => [value]
  | .branch branches _ => branches.map Prod.fst
  | .loop _ iterable _ => [iterable]
  | .raise _ message => message.toList
  | .assert condition message => condition :: message.toList
  | .importModule _ | .pass => []

/-- The statements in the blocks of a statement. -/
def inner : Statement → List Statement
  | .branch branches otherwise => branches.flatMap Prod.snd ++ otherwise
  | .loop _ _ body => body
  | _ => []

/-- A statement is part of itself and of every statement with a block in which there is one that it
is part of. -/
inductive PartOf (part : Statement) : Statement → Prop
  | self : PartOf part part
  | inner {whole inner : Statement} (hinner : inner ∈ whole.inner) (hpart : PartOf part inner) :
      PartOf part whole

theorem sizeOf_inner {whole inner : Statement} (hinner : inner ∈ whole.inner) :
    sizeOf inner < sizeOf whole := by
  cases whole with
  | branch branches otherwise =>
      rw [Statement.inner, List.mem_append, List.mem_flatMap] at hinner
      simp only [branch.sizeOf_spec]
      obtain ⟨⟨condition, body⟩, hbranch, hbody⟩ | hotherwise := hinner
      · have hbranch := List.sizeOf_lt_of_mem hbranch
        have hbody : sizeOf inner < sizeOf body := List.sizeOf_lt_of_mem hbody
        simp only [Prod.mk.sizeOf_spec] at hbranch
        omega
      · have hsize := List.sizeOf_lt_of_mem hotherwise
        omega
  | loop name iterable body =>
      have hsize : sizeOf inner < sizeOf body := List.sizeOf_lt_of_mem hinner
      simp only [loop.sizeOf_spec]
      omega
  | _ => cases hinner

end Statement

namespace Program

variable (program : Program)

/-- A statement stands in a program, in whatever block. -/
def Holds (statement : Statement) : Prop :=
  ∃ outer ∈ program, statement.PartOf outer

/-- An expression stands in a program: in a condition, a message, an argument or any other place. -/
def Contains (e : Expr) : Prop :=
  ∃ statement, program.Holds statement ∧ ∃ whole ∈ statement.operands, e.PartOf whole

/-- The places in which a program can name a variable, a function or a module. -/
inductive Names (name : String) : Prop
  | var (hvar : program.Contains (.var name))
  | callee (args : List Expr) (hcall : program.Contains (.call (.var name) args))
  | root (rest : List String) (hpath : program.Contains (.path (name :: rest)))
  | target (value : Expr) (hassign : program.Holds (.assign name value))
  | loop (iterable : Expr) (body : List Statement)
      (hloop : program.Holds (.loop name iterable body))
  | imported (rest : List String) (himport : program.Holds (.importModule (name :: rest)))

/-- The places in which a program can select an attribute. -/
inductive Selects (name : String) : Prop
  | attr (object : Expr) (hattr : program.Contains (.attr object name))
  | part (root : String) (rest : List String) (hname : name ∈ rest)
      (hpath : program.Contains (.path (root :: rest)))

end Program

/-! ## Uses and their sites -/

/-- What the guard judges in a use: a name, or an attribute. -/
inductive Site where
  | name (text : String)
  | attr (text : String)
deriving DecidableEq

namespace Site

/-- The text of a name or an attribute. -/
def text : Site → String
  | name text | attr text => text

/-- Whether the restricted guard refuses a name or an attribute. -/
def isRefused : Site → Bool
  | name text => isDenied text
  | attr text => isDunder text

end Site

/-- What the guard judges in a use. -/
def Use.site : Use → Site
  | .reads name | .calls name | .binds name | .imports name => .name name
  | .selects name | .invokes name => .attr name

/-- The sites of an expression, in the order in which they are used. -/
def Expr.sites (e : Expr) : List Site :=
  e.uses.map Use.site

/-- The sites of a statement, in the order in which they are used. -/
def Statement.sites (statement : Statement) : List Site :=
  statement.uses.map Use.site

/-- The sites that an expression adds to those of its children. -/
def Expr.ownSites : Expr → List Site
  | .var name => [.name name]
  | .path (root :: rest) => .name root :: rest.map .attr
  | .attr _ name => [.attr name]
  | _ => []

/-- The sites that a statement adds to those of its expressions and blocks. -/
def Statement.ownSites : Statement → List Site
  | .assign target _ => [.name target]
  | .loop name _ _ => [.name name]
  | .importModule (root :: _) => [.name root]
  | _ => []

variable {site : Site}

namespace Expr

theorem sites_usesOfList (items : List Expr) :
    (usesOfList items).map Use.site = items.flatMap sites := by
  induction items with
  | nil => rfl
  | cons e rest ih => rw [usesOfList, List.map_append, ih, List.flatMap_cons, sites]

theorem sites_usesOfLinks (links : List (CompareOp × Expr)) :
    (usesOfLinks links).map Use.site = (links.map Prod.snd).flatMap sites := by
  induction links with
  | nil => rfl
  | cons link rest ih =>
      obtain ⟨op, e⟩ := link
      rw [usesOfLinks, List.map_append, ih, List.map_cons, List.flatMap_cons, sites]

/-- The sites of an expression are its own, followed by those of its children. -/
theorem sites_eq (e : Expr) : e.sites = e.ownSites ++ e.children.flatMap sites := by
  cases e with
  | path parts => cases parts <;> simp [sites, uses, usesOfPath, ownSites, children, Use.site]
  | list items =>
      rw [sites, uses, sites_usesOfList, children]
      rfl
  | compare first links =>
      rw [sites, uses, List.map_append, sites_usesOfLinks, children, List.flatMap_cons]
      rfl
  | call callee args =>
      -- The name of a callee is a use of another kind than that of a variable, at the same site.
      cases callee <;>
        simp [sites, uses, ← sites_usesOfList, ownSites, children, Use.site]
  | _ => simp [sites, uses, ownSites, children, Use.site]

/-- An expression has a site if and only if a part of it has that site of its own. -/
theorem mem_sites_iff (e : Expr) :
    site ∈ e.sites ↔ ∃ part, PartOf part e ∧ site ∈ part.ownSites := by
  constructor
  · intro hsite
    rw [sites_eq, List.mem_append, List.mem_flatMap] at hsite
    obtain hown | ⟨child, hchild, hsite⟩ := hsite
    · exact ⟨e, .self, hown⟩
    · have hsmaller := sizeOf_child hchild
      obtain ⟨part, hpart, hown⟩ := (mem_sites_iff child).mp hsite
      exact ⟨part, .child hchild hpart, hown⟩
  · rintro ⟨part, hpart, hown⟩
    induction hpart with
    | self =>
        rw [sites_eq, List.mem_append]
        exact .inl hown
    | child hchild _ ih =>
        rw [sites_eq, List.mem_append, List.mem_flatMap]
        exact .inr ⟨_, hchild, ih⟩
termination_by sizeOf e

end Expr

namespace Statement

theorem mem_sites_usesOfBlock (block : List Statement) :
    site ∈ (usesOfBlock block).map Use.site ↔ ∃ statement ∈ block, site ∈ statement.sites := by
  induction block with
  | nil => simp [usesOfBlock]
  | cons statement rest ih =>
      rw [usesOfBlock, List.map_append, List.mem_append, ih]
      simp [sites]

theorem mem_sites_usesOfBranches (branches : List (Expr × List Statement)) :
    site ∈ (usesOfBranches branches).map Use.site ↔
      (∃ e ∈ branches.map Prod.fst, site ∈ e.sites) ∨
        ∃ statement ∈ branches.flatMap Prod.snd, site ∈ statement.sites := by
  induction branches with
  | nil => simp [usesOfBranches]
  | cons branch rest ih =>
      obtain ⟨condition, body⟩ := branch
      rw [usesOfBranches, List.map_append, List.mem_append, List.map_append, List.mem_append, ih,
        mem_sites_usesOfBlock, ← Expr.sites, List.map_cons, List.flatMap_cons]
      simp only [List.mem_cons, List.mem_append, or_and_right, exists_or, exists_eq_left]
      rw [← or_assoc, or_or_or_comm]

/-- The sites of a statement are its own, those of its expressions and those in its blocks. -/
theorem mem_sites_iff_inner (statement : Statement) :
    site ∈ statement.sites ↔ site ∈ statement.ownSites ∨
      (∃ e ∈ statement.operands, site ∈ e.sites) ∨
        ∃ inner ∈ statement.inner, site ∈ inner.sites := by
  cases statement with
  | branch branches otherwise =>
      rw [sites, uses, List.map_append, List.mem_append, mem_sites_usesOfBranches,
        mem_sites_usesOfBlock]
      simp only [ownSites, operands, inner, List.mem_append, or_and_right, exists_or, or_assoc,
        List.not_mem_nil, false_or]
  | loop name iterable body =>
      rw [sites, uses, List.map_cons, List.map_append, List.mem_cons, List.mem_append,
        mem_sites_usesOfBlock]
      simp [ownSites, operands, inner, Use.site, Expr.sites]
  | raise kind message | assert condition message =>
      cases message <;> simp [sites, uses, ownSites, operands, inner, Expr.usesOfOption, Expr.sites]
  | importModule path => cases path <;> simp [sites, uses, ownSites, operands, inner, Use.site]
  | _ => simp [sites, uses, ownSites, operands, inner, Use.site, Expr.sites]

/-- A statement has a site if and only if a statement in it has the site of its own or holds an
expression that has it. -/
theorem mem_sites_iff (statement : Statement) :
    site ∈ statement.sites ↔ ∃ part, PartOf part statement ∧
      (site ∈ part.ownSites ∨ ∃ e ∈ part.operands, site ∈ e.sites) := by
  constructor
  · intro hsite
    rcases (mem_sites_iff_inner statement).mp hsite with hown | hoperand | ⟨inner, hinner, hsite⟩
    · exact ⟨statement, .self, .inl hown⟩
    · exact ⟨statement, .self, .inr hoperand⟩
    · have hsmaller := sizeOf_inner hinner
      obtain ⟨part, hpart, hsite⟩ := (mem_sites_iff inner).mp hsite
      exact ⟨part, .inner hinner hpart, hsite⟩
  · rintro ⟨part, hpart, hsite⟩
    induction hpart with
    | self =>
        rw [mem_sites_iff_inner, ← or_assoc]
        exact .inl hsite
    | inner hinner _ ih =>
        rw [mem_sites_iff_inner]
        exact .inr (.inr ⟨_, hinner, ih⟩)
termination_by sizeOf statement

end Statement

namespace Program

variable {program : Program} {name : String}

/-- A program has a site if and only if a statement in it, or an expression in it, has the site of
its own. -/
theorem mem_sites_iff : site ∈ program.uses.map Use.site ↔
    (∃ statement, program.Holds statement ∧ site ∈ statement.ownSites) ∨
      ∃ e, program.Contains e ∧ site ∈ e.ownSites := by
  rw [uses, Statement.mem_sites_usesOfBlock]
  simp only [Statement.mem_sites_iff, Expr.mem_sites_iff]
  constructor
  · rintro ⟨outer, houter, part, hpart, hown | ⟨whole, hwhole, e, he, hown⟩⟩
    · exact .inl ⟨part, ⟨outer, houter, hpart⟩, hown⟩
    · exact .inr ⟨e, ⟨part, ⟨outer, houter, hpart⟩, whole, hwhole, he⟩, hown⟩
  · rintro (⟨part, ⟨outer, houter, hpart⟩, hown⟩ |
      ⟨e, ⟨part, ⟨outer, houter, hpart⟩, whole, hwhole, he⟩, hown⟩)
    · exact ⟨outer, houter, part, hpart, .inl hown⟩
    · exact ⟨outer, houter, part, hpart, .inr ⟨whole, hwhole, e, he, hown⟩⟩

/-- The callee of a call in a program stands in the program too. -/
theorem Contains.callee {callee : Expr} {args : List Expr}
    (hcall : program.Contains (.call callee args)) : program.Contains callee := by
  obtain ⟨statement, hstatement, whole, hwhole, hpart⟩ := hcall
  have hcallee : callee.PartOf (.call callee args) := .child List.mem_cons_self .self
  exact ⟨statement, hstatement, whole, hwhole, hcallee.trans hpart⟩

/-- A name has a site in a program if and only if it stands in a place for names. -/
theorem names_iff : program.Names name ↔ .name name ∈ program.uses.map Use.site := by
  rw [mem_sites_iff]
  constructor
  · intro hnames
    cases hnames with
    | var hvar => exact .inr ⟨_, hvar, List.mem_singleton_self _⟩
    | callee args hcall => exact .inr ⟨_, hcall.callee, List.mem_singleton_self _⟩
    | root rest hpath => exact .inr ⟨_, hpath, List.mem_cons_self⟩
    | target value hassign => exact .inl ⟨_, hassign, List.mem_singleton_self _⟩
    | loop iterable body hloop => exact .inl ⟨_, hloop, List.mem_singleton_self _⟩
    | imported rest himport => exact .inl ⟨_, himport, List.mem_singleton_self _⟩
  · rintro (⟨statement, hstatement, hown⟩ | ⟨e, he, hown⟩)
    · unfold Statement.ownSites at hown
      split at hown <;> simp at hown <;> subst hown
      · exact .target _ hstatement
      · exact .loop _ _ hstatement
      · exact .imported _ hstatement
    · unfold Expr.ownSites at hown
      split at hown <;> simp at hown <;> subst hown
      · exact .var he
      · exact .root _ he

/-- An attribute has a site in a program if and only if it stands in a place for attributes. -/
theorem selects_iff : program.Selects name ↔ .attr name ∈ program.uses.map Use.site := by
  rw [mem_sites_iff]
  constructor
  · intro hselects
    cases hselects with
    | attr object hattr => exact .inr ⟨_, hattr, List.mem_singleton_self _⟩
    | part root rest hname hpath =>
        exact .inr ⟨_, hpath, List.mem_cons_of_mem _ (List.mem_map_of_mem hname)⟩
  · rintro (⟨statement, hstatement, hown⟩ | ⟨e, he, hown⟩)
    · unfold Statement.ownSites at hown
      split at hown <;> simp at hown
    · unfold Expr.ownSites at hown
      split at hown <;> simp at hown
      · exact .part _ _ hown he
      · subst hown
        exact .attr _ he

end Program

/-! ## The screen -/

namespace Guard

theorem check_restricted (use : Use) :
    restricted.check use =
      if use.site.isRefused then .error ⟨use.site.text⟩ else .ok () := by
  cases use <;> rfl

theorem permits_restricted_iff {uses : List Use} :
    restricted.Permits uses ↔ ∀ site ∈ uses.map Use.site, site.isRefused = false := by
  have hcheck (use : Use) : restricted.check use = .ok () ↔ use.site.isRefused = false := by
    rw [check_restricted]
    cases use.site.isRefused <;> simp
  simp [Permits, hcheck]

/-- Uses are refused for the first of them at a refused site. -/
theorem checkAll_restricted_eq_error {uses : List Use} {refusal : Forbidden}
    (hrefused : restricted.checkAll uses = .error refusal) :
    ∃ before use after, uses = before ++ use :: after ∧ restricted.Permits before ∧
      use.site.isRefused = true ∧ use.site.text = refusal.capability := by
  induction uses with
  | nil => cases hrefused
  | cons use rest ih =>
      rw [checkAll, check_restricted] at hrefused
      split at hrefused
      next hsite =>
        cases hrefused
        exact ⟨[], use, rest, rfl, permits_nil _, hsite, rfl⟩
      next hsite =>
        obtain ⟨before, found, after, hrest, hbefore, hfound⟩ := ih hrefused
        have huse : restricted.check use = .ok () := by rw [check_restricted, if_neg hsite]
        refine ⟨use :: before, found, after, by rw [hrest, List.cons_append], ?_, hfound⟩
        exact (permits_cons _ _ _).mpr ⟨huse, hbefore⟩

/-- The restricted screen is exact. It accepts a program if and only if no refused name stands in it
as a variable, as a callee, as the root of a path, as the target of an assignment or a loop or as
the root of an import, and no attribute with two underscores at either end stands in it as an
attribute or in a path behind the root. A program that it does not accept is refused for such a name
or attribute, and that is the first one in the order in which the program uses them. -/
theorem screen_exact (program : Program) :
    (restricted.screenProgram program = .ok () ↔
      (∀ name, program.Names name → isDenied name = false) ∧
        ∀ name, program.Selects name → isDunder name = false) ∧
    ∀ refusal, restricted.screenProgram program = .error refusal →
      (isDenied refusal.capability = true ∧ program.Names refusal.capability ∨
        isDunder refusal.capability = true ∧ program.Selects refusal.capability) ∧
      ∃ before use after, program.uses = before ++ use :: after ∧
        restricted.Permits before ∧ use.site.isRefused = true ∧
        use.site.text = refusal.capability := by
  simp only [Program.names_iff, Program.selects_iff]
  constructor
  · rw [screenProgram_eq_ok_iff, permits_restricted_iff]
    constructor
    · intro hsites
      exact ⟨fun name hname => hsites _ hname, fun name hname => hsites _ hname⟩
    · rintro ⟨hnames, hattrs⟩ site hsite
      cases site with
      | name text => exact hnames text hsite
      | attr text => exact hattrs text hsite
  · intro refusal hrefused
    rw [screenProgram_eq] at hrefused
    obtain ⟨before, use, after, huses, hbefore, hrefused, htext⟩ :=
      checkAll_restricted_eq_error hrefused
    refine ⟨?_, before, use, after, huses, hbefore, hrefused, htext⟩
    have hsite : use.site ∈ program.uses.map Use.site := by
      rw [huses]
      exact List.mem_map_of_mem (List.mem_append_right _ List.mem_cons_self)
    rw [← htext]
    cases hkind : use.site with
    | name text =>
        rw [hkind] at hrefused hsite
        exact .inl ⟨hrefused, hsite⟩
    | attr text =>
        rw [hkind] at hrefused hsite
        exact .inr ⟨hrefused, hsite⟩

end Guard

/-- A program that refers to a refused function in the message of a branch that is never taken, and
to an attribute of a refused kind behind it. -/
def shelteredProgram : Program :=
  [.branch [(.bool false, [.assert (.compare (.int 1) [(.less, .int 2)])
      (some (.call (.var "eval") [.attr (.str "") "__class__"]))])] []]

/-- The function comes before the attribute, so it is what the screen reports. -/
theorem shelteredProgram_refused :
    Guard.restricted.screenProgram shelteredProgram = .error ⟨"eval"⟩ ∧
      shelteredProgram.Names "eval" ∧
      ∃ before use after, shelteredProgram.uses = before ++ use :: after ∧
        Guard.restricted.Permits before ∧ use.site.text = "eval" := by
  have hrefused : Guard.restricted.screenProgram shelteredProgram = .error ⟨"eval"⟩ := rfl
  obtain ⟨hname, before, use, after, huses, hbefore, _, htext⟩ :=
    (Guard.screen_exact shelteredProgram).2 _ hrefused
  refine ⟨hrefused, ?_, before, use, after, huses, hbefore, htext⟩
  obtain ⟨_, hname⟩ | ⟨hdunder, _⟩ := hname
  · exact hname
  · exact absurd hdunder (by decide)

end SchemaGuard
