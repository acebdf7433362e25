/-
Comparing two evaluations of one program, in forests that need not keep their state in the
same monad or be made of the same nodes.

# The relation

A comparison says when two computations are alike at a world. Worlds stand for what is known
so far, and only grow: nodes found along the way are known from then on, and whatever is
said of a node at one world still holds at a later one (`Persistent`). A comparison is closed
under `pure` and `bind`; nothing else is asked of it, so one argument serves to compare an
evaluation with itself, which says what evaluations keep, and with an evaluation that has no
state at all, which says what they find.

# What is proved

`alike_evaluate`: forests that answer alike, with registries whose types find alike, evaluate
every program alike. The proof goes through the definitions of evaluation one by one: the
walk, the tests, the predicates, the steps.
-/
import Mathlib.Data.List.Forall2
import TreeQuery.Query.Evaluate

namespace TreeQuery

-- ========================================================= related lists

section

variable {α β γ : Type} {R : α → β → Prop} {xs : List α} {ys : List β}

theorem exists_of_forall₂ (h : List.Forall₂ R xs ys) : ∀ x ∈ xs, ∃ y ∈ ys, R x y := by
  induction h with
  | nil => exact fun _ hx => absurd hx List.not_mem_nil
  | cons hxy _ ih =>
      refine List.forall_mem_cons.2 ⟨⟨_, List.mem_cons_self, hxy⟩, fun x hx => ?_⟩
      obtain ⟨y, hy, hr⟩ := ih x hx
      exact ⟨y, List.mem_cons_of_mem _ hy, hr⟩

/-- If one thing only is related to each, what is in the first list is what is related to an entry
of the second. -/
theorem mem_iff_of_forall₂ (unique : Relator.LeftUnique R) (h : List.Forall₂ R xs ys) {x : α} :
    x ∈ xs ↔ ∃ y ∈ ys, R x y := by
  refine ⟨exists_of_forall₂ h x, ?_⟩
  rintro ⟨y, hy, hr⟩
  obtain ⟨other, hother, hsame⟩ := exists_of_forall₂ h.flip y hy
  exact unique hr hsame ▸ hother

theorem map_eq_of_forall₂ {g : α → γ} {k : β → γ} (h : List.Forall₂ R xs ys)
    (same : ∀ x y, R x y → g x = k y) : xs.map g = ys.map k := by
  induction h with
  | nil => rfl
  | cons hxy _ ih => rw [List.map_cons, List.map_cons, ih, same _ _ hxy]

theorem forall₂_comp {S : γ → β → Prop} {zs : List γ} (hxs : List.Forall₂ R xs ys)
    (hzs : List.Forall₂ S zs ys) : List.Forall₂ (fun x z => ∃ y, R x y ∧ S z y) xs zs := by
  induction hxs generalizing zs with
  | nil =>
      cases hzs
      exact .nil
  | cons hxy _ ih =>
      cases hzs with
      | cons hzy hzs => exact .cons ⟨_, hxy, hzy⟩ (ih hzs)

/-- What lists are related by is in a third list, entry by entry. -/
theorem exists_forall₂_of_comp {S : γ → β → Prop} {T : α → γ → Prop}
    (h : List.Forall₂ (fun x y => ∃ z, T x z ∧ S z y) xs ys) :
    ∃ zs, List.Forall₂ T xs zs ∧ List.Forall₂ S zs ys := by
  induction h with
  | nil => exact ⟨[], .nil, .nil⟩
  | cons hxy _ ih =>
      obtain ⟨z, hxz, hzy⟩ := hxy
      obtain ⟨zs, hxs, hys⟩ := ih
      exact ⟨z :: zs, .cons hxz hxs, .cons hzy hys⟩

end

end TreeQuery

namespace TreeQuery.Query

open Expression (Axis NodeTest Predicate Program Step)

/-- When computations in two monads are alike. -/
structure Comparison (m n : Type → Type) [Monad m] [Monad n] [LawfulMonad m]
    [LawfulMonad n] where
  /-- What is known so far. -/
  World : Type
  /-- More is known. -/
  le : World → World → Prop
  refl : ∀ W, le W W
  trans : ∀ {U V W}, le U V → le V W → le U W
  /-- Started at a world, the computations lead to a world at which what they return is
  related. -/
  Alike : ∀ {α β : Type}, World → (World → α → β → Prop) → m α → n β → Prop
  pure : ∀ {α β : Type} {W : World} {R : World → α → β → Prop} {x : α} {y : β},
    R W x y → Alike W R (pure x) (pure y)
  bind : ∀ {α β γ δ : Type} {W : World} {R : World → α → β → Prop}
    {Q : World → γ → δ → Prop} {a : m α} {b : n β} {f : α → m γ} {g : β → n δ},
    Alike W R a b → (∀ V x y, le W V → R V x y → Alike V Q (f x) (g y)) →
    Alike W Q (a >>= f) (b >>= g)

namespace Comparison

variable {m n : Type → Type} [Monad m] [Monad n] [LawfulMonad m] [LawfulMonad n]
  (c : Comparison m n)

/-- The relation lasts as more gets known. -/
def Persistent {α β : Type} (R : c.World → α → β → Prop) : Prop :=
  ∀ V W x y, c.le V W → R V x y → R W x y

/-- Being the same, at any world. -/
def Same {α : Type} : c.World → α → α → Prop := fun _ => Eq

/-- Lists related entry by entry. -/
def Each {α β : Type} (R : c.World → α → β → Prop) : c.World → List α → List β → Prop :=
  fun W => List.Forall₂ (R W)

/-- The same failure, or related results. -/
def Outcome {α β ε : Type} (R : c.World → α → β → Prop) :
    c.World → Except ε α → Except ε β → Prop
  | W, .ok x, .ok y => R W x y
  | _, .error e, .error f => e = f
  | _, _, _ => False

variable {c}

theorem Persistent.same {α : Type} : c.Persistent (c.Same (α := α)) := by
  intro V W x y _ h
  exact h

theorem Persistent.each {α β : Type} {R : c.World → α → β → Prop} (h : c.Persistent R) :
    c.Persistent (c.Each R) := by
  intro V W xs ys hle hxy
  exact hxy.imp fun x y => h V W x y hle

/-- Lists of the same entries, each with a property. -/
theorem each_same_iff {α : Type} {K : c.World → α → Prop} {W : c.World} {xs ys : List α} :
    c.Each (fun V x y => x = y ∧ K V x) W xs ys ↔ xs = ys ∧ ∀ x ∈ xs, K W x := by
  constructor
  · intro h
    induction h with
    | nil => exact ⟨rfl, fun x hx => by cases hx⟩
    | cons hxy _ ih =>
        obtain ⟨rfl, hx⟩ := hxy
        obtain ⟨rfl, hxs⟩ := ih
        exact ⟨rfl, List.forall_mem_cons.2 ⟨hx, hxs⟩⟩
  · rintro ⟨rfl, h⟩
    exact List.forall₂_same.2 fun x hx => ⟨rfl, h x hx⟩

-- =========================================================== lists

section

variable {α β γ δ : Type} {W : c.World}
  {R : c.World → α → β → Prop} {Q : c.World → γ → δ → Prop}

theorem alike_mapM (hR : c.Persistent R) (hQ : c.Persistent Q) {f : α → m γ} {g : β → n δ}
    {xs : List α} {ys : List β} (hxy : c.Each R W xs ys)
    (h : ∀ V x y, c.le W V → R V x y → c.Alike V Q (f x) (g y)) :
    c.Alike W (c.Each Q) (xs.mapM f) (ys.mapM g) := by
  induction xs generalizing W ys with
  | nil =>
      cases hxy
      rw [List.mapM_nil, List.mapM_nil]
      exact c.pure .nil
  | cons x xs ih =>
      cases hxy with
      | @cons _ y _ ys hx hxs =>
          rw [List.mapM_cons, List.mapM_cons]
          refine c.bind (h W x y (c.refl W) hx) fun V a b hV hab => ?_
          refine c.bind (ih (hR.each W V _ _ hV hxs) fun U x y hU =>
            h U x y (c.trans hV hU)) fun U as bs hU habs => ?_
          exact c.pure (.cons (hQ V U a b hU hab) habs)

theorem alike_filterAuxM (hR : c.Persistent R) {f : α → m Bool} {g : β → n Bool}
    {xs as : List α} {ys bs : List β} (hxy : c.Each R W xs ys) (hab : c.Each R W as bs)
    (h : ∀ V x y, c.le W V → R V x y → c.Alike V c.Same (f x) (g y)) :
    c.Alike W (c.Each R) (xs.filterAuxM f as) (ys.filterAuxM g bs) := by
  induction xs generalizing W as bs ys with
  | nil =>
      cases hxy
      exact c.pure hab
  | cons x xs ih =>
      cases hxy with
      | @cons _ y _ ys hx hxs =>
          refine c.bind (h W x y (c.refl W) hx) fun V p q hV hpq => ?_
          cases hpq
          refine ih (hR.each W V _ _ hV hxs) ?_ fun U x y hU => h U x y (c.trans hV hU)
          have has := hR.each W V _ _ hV hab
          cases p with
          | true => exact .cons (hR W V x y hV hx) has
          | false => exact has

theorem alike_filterM (hR : c.Persistent R) {f : α → m Bool} {g : β → n Bool} {xs : List α}
    {ys : List β} (hxy : c.Each R W xs ys)
    (h : ∀ V x y, c.le W V → R V x y → c.Alike V c.Same (f x) (g y)) :
    c.Alike W (c.Each R) (xs.filterM f) (ys.filterM g) := by
  refine c.bind (alike_filterAuxM hR hxy .nil h) fun V as bs hV hab => ?_
  exact c.pure (List.rel_reverse hab)

end

-- ==================================================== failing computations

section

variable {α β γ δ ε : Type} {W : c.World}
  {R : c.World → α → β → Prop} {Q : c.World → γ → δ → Prop}

theorem alike_exceptPure {x : α} {y : β} (h : R W x y) :
    c.Alike W (c.Outcome R) (Pure.pure x : ExceptT ε m α).run
      (Pure.pure y : ExceptT ε n β).run :=
  c.pure (R := c.Outcome R) (x := Except.ok x) (y := Except.ok y) h

theorem alike_throw (e : ε) :
    c.Alike W (c.Outcome R) (throw e : ExceptT ε m α).run (throw e : ExceptT ε n β).run :=
  c.pure (R := c.Outcome R) (x := Except.error e) (y := Except.error e) rfl

/-- An answer that has been worked out already. -/
theorem alike_except {x : Except ε α} {y : Except ε β} (h : c.Outcome R W x y) :
    c.Alike W (c.Outcome R) (liftM x : ExceptT ε m α).run (liftM y : ExceptT ε n β).run :=
  c.pure h

theorem alike_exceptBind {a : ExceptT ε m α} {b : ExceptT ε n β} {f : α → ExceptT ε m γ}
    {g : β → ExceptT ε n δ} (h : c.Alike W (c.Outcome R) a.run b.run)
    (hf : ∀ V x y, c.le W V → R V x y → c.Alike V (c.Outcome Q) (f x).run (g y).run) :
    c.Alike W (c.Outcome Q) (a >>= f).run (b >>= g).run := by
  refine c.bind h fun V x y hV hxy => ?_
  cases x with
  | error e =>
      cases y with
      | error e' =>
          obtain rfl : e = e' := hxy
          exact alike_throw e
      | ok y => exact hxy.elim
  | ok x =>
      cases y with
      | error e => exact hxy.elim
      | ok y => exact hf V x y hV hxy

/-- A computation that cannot fail, among those that can. -/
theorem alike_monadLift {a : m α} {b : n β} (h : c.Alike W R a b) :
    c.Alike W (c.Outcome R) (liftM a : ExceptT ε m α).run (liftM b : ExceptT ε n β).run := by
  show c.Alike W (c.Outcome R) (Except.ok <$> a) (Except.ok <$> b)
  rw [← bind_pure_comp, ← bind_pure_comp]
  exact c.bind h fun V x y _ hxy => c.pure (R := c.Outcome R) (x := Except.ok x)
    (y := Except.ok y) hxy

end

-- ========================================================== forests

/-- Forests that answer every question alike about related nodes. -/
structure Forests {α β : Type} (R : c.World → α → β → Prop) (f : Forest m α)
    (g : Forest n β) : Prop where
  persistent : c.Persistent R
  address : ∀ {W x y}, R W x y → f.address x = g.address y
  name : ∀ {W x y}, R W x y → c.Alike W c.Same (f.name x) (g.name y)
  tags : ∀ {W x y}, R W x y → c.Alike W c.Same (f.tags x) (g.tags y)
  property : ∀ {W x y} (key : String), R W x y →
    c.Alike W c.Same (f.property x key) (g.property y key)
  children : ∀ {W x y}, R W x y → c.Alike W (c.Each R) (f.children x) (g.children y)
  extent : ∀ {W x y}, R W x y → c.Alike W c.Same (f.extent x) (g.extent y)

/-- Types that find alike from related nodes. -/
def Types {α β ε : Type} (R : c.World → α → β → Prop) (p : Provider m α ε)
    (q : Provider n β ε) : Prop :=
  ∀ W x y, R W x y → c.Alike W (c.Outcome (c.Each R)) (p.find x) (q.find y)

/-- Registries with the same tags, and types that find alike under the same names. -/
structure Registries {α β ε : Type} (R : c.World → α → β → Prop)
    (r : Registry (Provider m α ε)) (s : Registry (Provider n β ε)) : Prop where
  tags : r.tags = s.tags
  types : List.Forall₂ (fun p q => p.1 = q.1 ∧ c.Types R p.2 q.2) r.types s.types

section

variable {α β ε : Type} {R : c.World → α → β → Prop}
  {f : Forest m α} {g : Forest n β}

theorem alike_walk (h : c.Forests R f g) (fuel : Nat) {W : c.World} {xs : List α}
    {ys : List β} (hxy : c.Each R W xs ys) :
    c.Alike W (c.Each R) (f.walk fuel xs) (g.walk fuel ys) := by
  induction fuel generalizing W xs ys with
  | zero => exact c.pure .nil
  | succ fuel ih =>
      cases hxy with
      | nil => exact c.pure .nil
      | @cons x y xs ys hx hxs =>
          refine c.bind (h.children hx) fun V as bs hV hab => ?_
          have hst := List.rel_append hab (h.persistent.each W V _ _ hV hxs)
          refine c.bind (ih hst) fun U as bs hU hrest => ?_
          exact c.pure (.cons (h.persistent W U x y (c.trans hV hU) hx) hrest)

theorem alike_descendantsOrSelf (h : c.Forests R f g) {W : c.World} {x : α} {y : β}
    (hxy : R W x y) :
    c.Alike W (c.Each R) (f.descendantsOrSelf x) (g.descendantsOrSelf y) := by
  refine c.bind (h.extent hxy) fun V k l hV hkl => ?_
  cases hkl
  exact alike_walk h k (.cons (h.persistent W V x y hV hxy) .nil)

theorem alike_hasTag (h : c.Forests R f g) {W : c.World} {x : α} {y : β} (hxy : R W x y)
    (tag : String) : c.Alike W c.Same (f.hasTag x tag) (g.hasTag y tag) := by
  refine c.bind (h.tags hxy) fun V s t _ hst => ?_
  cases hst
  exact c.pure rfl

theorem alike_hasChild (h : c.Forests R f g) {W : c.World} {x : α} {y : β} (hxy : R W x y)
    (name : String) : c.Alike W c.Same (f.hasChild x name) (g.hasChild y name) := by
  refine c.bind (h.children hxy) fun V xs ys _ hxys => ?_
  refine c.bind (alike_mapM (Q := c.Same) h.persistent .same hxys
    fun U x y _ => h.name) fun U s t _ hst => ?_
  have hst : List.Forall₂ Eq s t := hst
  rw [List.forall₂_eq_eq_eq] at hst
  rw [hst]
  exact c.pure rfl

-- ============================================================ steps

theorem alike_select (h : c.Forests R f g) (step : Step) {W : c.World} {x : α} {y : β}
    (hxy : R W x y) : c.Alike W (c.Each R) (select f step x) (select g step y) := by
  have ha : c.Alike W (c.Each R) (alongAxis f step.axis x) (alongAxis g step.axis y) := by
    cases step.axis with
    | child => exact h.children hxy
    | descendant => exact alike_descendantsOrSelf h hxy
  refine c.bind ha fun V xs ys _ hxys => ?_
  cases step.test with
  | any => exact c.pure hxys
  | name name =>
      refine alike_filterM h.persistent hxys fun U x y _ hxy => ?_
      refine c.bind (h.name hxy) fun _ s t _ hst => ?_
      cases hst
      exact c.pure rfl
  | type tag => exact alike_filterM h.persistent hxys fun U x y _ hxy => alike_hasTag h hxy tag

theorem alike_findFromEach {p : Provider m α ε} {q : Provider n β ε} (h : c.Types R p q)
    (hR : c.Persistent R) {W : c.World} {xs : List α} {ys : List β} (hxy : c.Each R W xs ys) :
    c.Alike W (c.Outcome (c.Each R)) (findFromEach p xs).run (findFromEach q ys).run := by
  induction xs generalizing W ys with
  | nil =>
      cases hxy
      exact alike_exceptPure .nil
  | cons x xs ih =>
      cases hxy with
      | @cons _ y _ ys hx hxs =>
          refine alike_exceptBind (R := c.Outcome (c.Each R)) (alike_monadLift (h W x y hx))
            fun V as bs hV hab => ?_
          match as, bs, hab with
          | .error e, .error _, rfl => exact alike_throw (Failure.provider e)
          | .ok as, .ok bs, hab =>
              have hab : c.Each R V as bs := hab
              refine alike_exceptBind (ih (hR.each W V _ _ hV hxs)) fun U cs ds hU hcd => ?_
              exact alike_exceptPure (List.rel_append (hR.each V U _ _ hU hab) hcd)

/-- What a type step's name stands for, alike on both sides. -/
def Resolutions {α β ε : Type} (R : c.World → α → β → Prop) :
    Option (Resolution (Provider m α ε)) → Option (Resolution (Provider n β ε)) → Prop
  | none, none => True
  | some (.tag s), some (.tag t) => s = t
  | some (.registered s p), some (.registered t q) => s = t ∧ c.Types R p q
  | _, _ => False

theorem alike_expand (h : c.Forests R f g) (step : Step)
    {r : Option (Resolution (Provider m α ε))} {s : Option (Resolution (Provider n β ε))}
    (hrs : c.Resolutions R r s) {W : c.World} {x : α} {y : β} (hxy : R W x y) :
    c.Alike W (c.Outcome (c.Each R)) (expand f step r x).run (expand g step s y).run := by
  match r, s, hrs with
  | none, none, _ => exact alike_monadLift (alike_select h step hxy)
  | some (.tag _), some (.tag _), _ => exact alike_monadLift (alike_select h step hxy)
  | some (.registered _ p), some (.registered _ q), ⟨_, hpq⟩ =>
      unfold expand
      cases step.axis with
      | child => exact alike_findFromEach hpq h.persistent (.cons hxy .nil)
      | descendant =>
          refine alike_exceptBind (alike_monadLift (alike_descendantsOrSelf h hxy))
            fun V xs ys _ hxys => ?_
          exact alike_findFromEach hpq h.persistent hxys

theorem alike_applyPredicate (h : c.Forests R f g) (predicate : Predicate) {W : c.World}
    {xs : List α} {ys : List β} (hxy : c.Each R W xs ys) :
    c.Alike W (c.Each R) (applyPredicate f xs predicate) (applyPredicate g ys predicate) := by
  cases predicate with
  | «attribute» name value =>
      refine alike_filterM h.persistent hxy fun V x y _ hxy => ?_
      refine c.bind (h.property name hxy) fun _ s t _ hst => ?_
      cases hst
      exact c.pure rfl
  | hasChild name =>
      exact alike_filterM h.persistent hxy fun V x y _ hxy => alike_hasChild h hxy name
  | position place =>
      cases place with
      | zero => exact c.pure .nil
      | succ place =>
          refine c.pure ?_
          show List.Forall₂ (R W) (xs[place]?).toList (ys[place]?).toList
          have hlen := hxy.length_eq
          by_cases hp : place < xs.length
          · rw [List.getElem?_eq_getElem hp, List.getElem?_eq_getElem (hlen ▸ hp)]
            exact .cons (hxy.get hp (hlen ▸ hp)) .nil
          · rw [List.getElem?_eq_none (by omega), List.getElem?_eq_none (by omega)]
            exact .nil

theorem alike_applyPredicates (h : c.Forests R f g) (predicates : List Predicate)
    {W : c.World} {xs : List α} {ys : List β} (hxy : c.Each R W xs ys) :
    c.Alike W (c.Each R) (applyPredicates f predicates xs) (applyPredicates g predicates ys) := by
  unfold applyPredicates
  induction predicates generalizing W xs ys with
  | nil => exact c.pure hxy
  | cons predicate rest ih =>
      rw [List.foldlM_cons, List.foldlM_cons]
      exact c.bind (alike_applyPredicate h predicate hxy) fun V xs ys _ hxys => ih hxys

theorem alike_applyStep (h : c.Forests R f g) (step : Step)
    {r : Option (Resolution (Provider m α ε))} {s : Option (Resolution (Provider n β ε))}
    (hrs : c.Resolutions R r s) {W : c.World} {xs : List α} {ys : List β}
    (hxy : c.Each R W xs ys) :
    c.Alike W (c.Outcome (c.Each R)) (applyStep f step r xs).run (applyStep g step s ys).run := by
  induction xs generalizing W ys with
  | nil =>
      cases hxy
      exact alike_exceptPure .nil
  | cons x xs ih =>
      cases hxy with
      | @cons _ y _ ys hx hxs =>
          refine alike_exceptBind (alike_expand h step hrs hx) fun V as bs hV hab => ?_
          refine alike_exceptBind (alike_monadLift (alike_applyPredicates h step.predicates hab))
            fun U as bs hU hab => ?_
          refine alike_exceptBind (ih (h.persistent.each W U _ _ (c.trans hV hU) hxs))
            fun T cs ds hT hcd => ?_
          exact alike_exceptPure (List.rel_append (h.persistent.each U T _ _ hT hab) hcd)

/-- Steps with what their types stand for, alike on both sides. -/
def Resolved {α β ε : Type} (R : c.World → α → β → Prop)
    (r : List (Step × Option (Resolution (Provider m α ε))))
    (s : List (Step × Option (Resolution (Provider n β ε)))) : Prop :=
  List.Forall₂ (fun a b => a.1 = b.1 ∧ c.Resolutions R a.2 b.2) r s

theorem alike_applySteps (h : c.Forests R f g)
    {r : List (Step × Option (Resolution (Provider m α ε)))}
    {s : List (Step × Option (Resolution (Provider n β ε)))} (hrs : c.Resolved R r s)
    {W : c.World} {xs : List α} {ys : List β} (hxy : c.Each R W xs ys) :
    c.Alike W (c.Outcome (c.Each R)) (applySteps f r xs).run (applySteps g s ys).run := by
  induction hrs generalizing W xs ys with
  | nil => exact alike_exceptPure hxy
  | @cons a b r s hab _ ih =>
      obtain ⟨step, p⟩ := a
      obtain ⟨_, q⟩ := b
      obtain ⟨rfl, hpq⟩ := hab
      exact alike_exceptBind (alike_applyStep h step hpq hxy) fun V xs ys _ hxys => ih hxys

-- ======================================================= resolving

theorem Registries.resolve? {r : Registry (Provider m α ε)} {s : Registry (Provider n β ε)}
    (h : c.Registries R r s) (name : String) :
    c.Resolutions R (r.resolve? name) (s.resolve? name) ∧
      ((r.resolve? name).isSome = (s.resolve? name).isSome) := by
  have hlook : ∀ {types : List (String × Provider m α ε)}
      {types' : List (String × Provider n β ε)},
      List.Forall₂ (fun p q => p.1 = q.1 ∧ c.Types R p.2 q.2) types types' →
      (types.lookup name = none ∧ types'.lookup name = none) ∨
        ∃ p q, types.lookup name = some p ∧ types'.lookup name = some q ∧ c.Types R p q := by
    intro types types' ht
    induction ht with
    | nil => exact .inl ⟨rfl, rfl⟩
    | @cons p q types types' hpq _ ih =>
        obtain ⟨k, p⟩ := p
        obtain ⟨_, q⟩ := q
        obtain ⟨rfl, hpq⟩ := hpq
        rw [List.lookup_cons, List.lookup_cons]
        cases name == k with
        | true => exact .inr ⟨p, q, rfl, rfl, hpq⟩
        | false => exact ih
  unfold Registry.resolve? Registry.type? Registry.isTag
  rcases hlook h.types with ⟨hp, hq⟩ | ⟨p, q, hp, hq, hpq⟩
  · rw [hp, hq, h.tags]
    by_cases ht : s.tags.contains name = true
    · simp only [ht, if_true]
      exact ⟨rfl, rfl⟩
    · simp only [ht]
      exact ⟨trivial, rfl⟩
  · rw [hp, hq]
    exact ⟨⟨rfl, hpq⟩, rfl⟩

theorem Registries.typeNames {r : Registry (Provider m α ε)} {s : Registry (Provider n β ε)}
    (h : c.Registries R r s) : r.typeNames = s.typeNames := by
  unfold Registry.typeNames
  have hnames : r.types.map (·.1) = s.types.map (·.1) :=
    map_eq_of_forall₂ h.types fun p q hpq => hpq.1
  rw [h.tags, hnames]

/-- A step resolves alike, or its type is unknown on both sides. -/
theorem resolutions_resolveStep {r : Registry (Provider m α ε)}
    {s : Registry (Provider n β ε)} (h : c.Registries R r s) (step : Step) :
    (∃ a b, resolveStep r step = .ok a ∧ resolveStep s step = .ok b ∧ c.Resolutions R a b) ∨
      ∃ e, resolveStep r step = .error e ∧ resolveStep s step = .error e := by
  unfold resolveStep
  cases step.typeName? with
  | none => exact .inl ⟨none, none, rfl, rfl, trivial⟩
  | some name =>
      obtain ⟨hres, hsome⟩ := h.resolve? name
      have hsug : r.suggestion? name = s.suggestion? name := by
        unfold Registry.suggestion?
        rw [h.typeNames]
      cases hr : r.resolve? name with
      | none =>
          rw [hr] at hsome
          have hs : s.resolve? name = none := by simpa using hsome.symm
          refine .inr ⟨.unknownType name (s.suggestion? name), ?_, ?_⟩
          · simp only [hr, hsug]
          · simp only [hs]
      | some a =>
          rw [hr] at hsome hres
          obtain ⟨b, hs⟩ := Option.isSome_iff_exists.1 hsome.symm
          rw [hs] at hres
          refine .inl ⟨some a, some b, ?_, ?_, hres⟩
          · simp only [hr]
          · simp only [hs]

/-- The steps resolve alike, or the same type is unknown on both sides. -/
theorem resolved_resolveSteps {r : Registry (Provider m α ε)}
    {s : Registry (Provider n β ε)} (h : c.Registries R r s) (steps : List Step) :
    (∃ a b, resolveSteps r steps = .ok a ∧ resolveSteps s steps = .ok b ∧ c.Resolved R a b) ∨
      ∃ e, resolveSteps r steps = .error e ∧ resolveSteps s steps = .error e := by
  induction steps with
  | nil => exact .inl ⟨[], [], rfl, rfl, .nil⟩
  | cons step rest ih =>
      unfold resolveSteps
      rcases resolutions_resolveStep h step with ⟨a, b, ha, hb, hab⟩ | ⟨e, ha, hb⟩
      · rw [ha, hb]
        rcases ih with ⟨as, bs, has, hbs, habs⟩ | ⟨e, has, hbs⟩
        · rw [has, hbs]
          exact .inl ⟨_, _, rfl, rfl, .cons ⟨rfl, hab⟩ habs⟩
        · rw [has, hbs]
          exact .inr ⟨e, rfl, rfl⟩
      · rw [ha, hb]
        exact .inr ⟨e, rfl, rfl⟩

-- ====================================================== evaluation

theorem each_dropRepeated (h : c.Forests R f g) {W : c.World} {xs : List α} {ys : List β}
    (hxy : c.Each R W xs ys) :
    c.Each R W (dropRepeated f.address xs) (dropRepeated g.address ys) := by
  have hfilter : ∀ (x : String) {xs : List α} {ys : List β}, c.Each R W xs ys →
      c.Each R W (xs.filter fun n => f.address n != x) (ys.filter fun n => g.address n != x) := by
    intro x xs ys hxy
    induction hxy with
    | nil => exact .nil
    | @cons a b xs ys hab _ ih =>
        rw [List.filter_cons, List.filter_cons, h.address hab]
        split
        · exact .cons hab ih
        · exact ih
  induction hxy with
  | nil => exact .nil
  | @cons x y xs ys hx _ ih =>
      refine .cons hx ?_
      rw [h.address hx]
      exact hfilter _ ih

/-- Forests that answer alike, with types that find alike, evaluate every program alike. -/
theorem alike_evaluate (h : c.Forests R f g) {r : Registry (Provider m α ε)}
    {s : Registry (Provider n β ε)} (hrs : c.Registries R r s) (dedupe : Bool)
    (program : Program) {W : c.World} {x : α} {y : β} (hxy : R W x y) :
    c.Alike W (c.Outcome (c.Each R)) (evaluate f r dedupe program x).run
      (evaluate g s dedupe program y).run := by
  have hsteps : c.Outcome (fun _ => c.Resolved R) W (resolveSteps r program.steps)
      (resolveSteps s program.steps) := by
    rcases resolved_resolveSteps hrs program.steps with ⟨a, b, ha, hb, hab⟩ | ⟨e, ha, hb⟩
    · rw [ha, hb]
      exact hab
    · rw [ha, hb]
      rfl
  refine alike_exceptBind (alike_except hsteps) fun V a b hV hab => ?_
  refine alike_exceptBind (alike_applySteps h hab (.cons (h.persistent W V x y hV hxy) .nil))
    fun U xs ys _ hxys => ?_
  cases dedupe with
  | true => exact alike_exceptPure (each_dropRepeated h hxys)
  | false => exact alike_exceptPure hxys

end

end Comparison

end TreeQuery.Query
