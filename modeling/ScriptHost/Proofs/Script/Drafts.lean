import Mathlib.Data.List.Forall2
import ScriptHost.Script.Step

/-!
# What a draft comes to

A function can be made in four ways. In the end each of them gives a function a generic handler, up
to two more handlers, and claims about these. Two drafts that agree on this make the same function,
and programs that differ in such drafts only are the same program.

- `Draft.textHandler`, `Draft.numericHandler`, `Draft.claims`: what the function of a draft has,
  whatever the way in which it is made. `Draft.resolve_eq` says so.
- `Draft.Alike`: drafts with the same handlers, and with the same claims if these count.
- `Literal.Like`, `ArgLiteral.Like`, `Step.Like`: literals, arguments and steps that are the same
  but for drafts in them, at any depth.
- `Step.perform_eq_of_like`, `Session.run_eq_of_like`: where such drafts make the same functions,
  such programs do the same.
-/

namespace ScriptHost.Script

/-! ## Drafts -/

namespace Draft

/-- The handler for unboxed texts of the function of a draft. -/
def textHandler (d : Draft) : Option HandlerDraft :=
  match d.making with
  | .assembled | .bespoke _ => d.text
  | .single | .minimal => none

/-- The handler for unboxed numbers of the function of a draft. -/
def numericHandler (d : Draft) : Option HandlerDraft :=
  match d.making with
  | .assembled | .bespoke _ => d.numeric
  | .single | .minimal => none

/-- The claims that are true of a function with these handlers. -/
def truth (text numeric : Option HandlerDraft) : Shape → Bool
  | .generic => true
  | .text => text.isSome
  | .numeric => numeric.isSome

/-- The claims of the function of a draft. They are true unless they are made up. -/
def claims (d : Draft) : Shape → Bool :=
  match d.making with
  | .bespoke claims => claims
  | _ => truth d.textHandler d.numericHandler

theorem minimal_claims : (fun s : Shape => s == .generic) = truth none none := by
  funext s
  cases s <;> rfl

/-- However a function is made, it has the handlers and the claims of its draft. -/
theorem resolve_eq (d : Draft) :
    d.resolve = (do
      let id ← Session.freshId
      let generic ← d.generic.resolve
      let text ← HandlerDraft.resolve? d.textHandler
      let numeric ← HandlerDraft.resolve? d.numericHandler
      pure (.mk id d.label generic text numeric d.claims)) := by
  obtain ⟨label, making, generic, text, numeric⟩ := d
  cases making with
  | bespoke claims => rfl
  | single =>
    simp only [resolve, textHandler, numericHandler, claims, HandlerDraft.resolve?, pure_bind]
    rfl
  | minimal =>
    simp only [resolve, textHandler, numericHandler, claims, HandlerDraft.resolve?, pure_bind,
      minimal_claims]
  | assembled =>
    -- whether a handler is there does not depend on what it resolves to
    cases text <;> cases numeric <;>
      simp only [resolve, textHandler, numericHandler, claims, HandlerDraft.resolve?, pure_bind,
        bind_assoc] <;> rfl

/-- Two drafts have the same handlers for the same shapes. If `exact` holds, they also make the
same claims. -/
structure Alike (exact : Prop) (d d' : Draft) : Prop where
  label : d.label = d'.label
  generic : d.generic = d'.generic
  text : d.textHandler = d'.textHandler
  numeric : d.numericHandler = d'.numericHandler
  claims : exact → d.claims = d'.claims

theorem Alike.refl (exact : Prop) (d : Draft) : Alike exact d d :=
  ⟨rfl, rfl, rfl, rfl, fun _ => rfl⟩

/-- Drafts that make the same claims as well make the same function. -/
theorem Alike.resolve_eq {d d' : Draft} (h : Alike True d d') : d.resolve = d'.resolve := by
  rw [Draft.resolve_eq, Draft.resolve_eq, h.label, h.generic, h.text, h.numeric,
    h.claims trivial]

end Draft

/-! ## Programs that differ in drafts -/

variable {D : Draft → Draft → Prop}

mutual

/-- Two literals are the same, but for drafts at any depth in them. -/
inductive Literal.Like (D : Draft → Draft → Prop) : Literal → Literal → Prop
  | scalar (s : Scalar) : Literal.Like D (.scalar s) (.scalar s)
  | named (name : String) : Literal.Like D (.named name) (.named name)
  | object (keys : List String) {ls ls' : List Literal} (h : Literal.AllLike D ls ls') :
      Literal.Like D (.object keys ls) (.object keys ls')
  | foreign (content : Content) : Literal.Like D (.foreign content) (.foreign content)
  | function {d d' : Draft} (h : D d d') : Literal.Like D (.function d) (.function d')

/-- The same for lists. -/
inductive Literal.AllLike (D : Draft → Draft → Prop) : List Literal → List Literal → Prop
  | nil : Literal.AllLike D [] []
  | cons {l l' : Literal} {ls ls' : List Literal} (h : Literal.Like D l l')
      (hs : Literal.AllLike D ls ls') : Literal.AllLike D (l :: ls) (l' :: ls')

end

mutual

theorem Literal.Like.refl (hD : ∀ d, D d d) : ∀ l : Literal, Literal.Like D l l
  | .scalar s => .scalar s
  | .named name => .named name
  | .object keys ls => .object keys (Literal.AllLike.refl hD ls)
  | .foreign content => .foreign content
  | .function d => .function (hD d)

theorem Literal.AllLike.refl (hD : ∀ d, D d d) : ∀ ls : List Literal, Literal.AllLike D ls ls
  | [] => .nil
  | l :: ls => .cons (Literal.Like.refl hD l) (Literal.AllLike.refl hD ls)

end

/-- Two arguments are the same, but for drafts. -/
inductive ArgLiteral.Like (D : Draft → Draft → Prop) : ArgLiteral → ArgLiteral → Prop
  | generic {l l' : Literal} (h : Literal.Like D l l') :
      ArgLiteral.Like D (.generic l) (.generic l')
  | text (s : String) : ArgLiteral.Like D (.text s) (.text s)
  | numeric (x : Number) : ArgLiteral.Like D (.numeric x) (.numeric x)

theorem ArgLiteral.Like.refl (hD : ∀ d, D d d) : ∀ a : ArgLiteral, ArgLiteral.Like D a a
  | .generic l => .generic (.refl hD l)
  | .text s => .text s
  | .numeric x => .numeric x

/-- Two steps are the same, but for drafts in their literals. -/
inductive Step.Like (D : Draft → Draft → Prop) : Step → Step → Prop
  | same (t : Step) : Step.Like D t t
  | bind (name : String) {l l' : Literal} (h : l.Like D l') :
      Step.Like D (.bind name l) (.bind name l')
  | equal {a a' b b' : Literal} (ha : a.Like D a') (hb : b.Like D b') :
      Step.Like D (.equal a b) (.equal a' b')
  | set (name key : String) {l l' : Literal} (h : l.Like D l') :
      Step.Like D (.set name key l) (.set name key l')
  | add (name key : String) {l l' : Literal} (h : l.Like D l') :
      Step.Like D (.add name key l) (.add name key l')
  | call (function : String) {a a' : ArgLiteral} (h : a.Like D a') (entry : Entry) :
      Step.Like D (.call function a entry) (.call function a' entry)
  | classify {a a' : ArgLiteral} (h : a.Like D a') : Step.Like D (.classify a) (.classify a')
  | print (stream : Stream) {a a' : ArgLiteral} (h : a.Like D a') (entry : Entry) :
      Step.Like D (.print stream a entry) (.print stream a' entry)

/-! ## The same functions -/

mutual

theorem Literal.Like.evaluate_eq (hD : ∀ d d', D d d' → d.resolve = d'.resolve)
    {l l' : Literal} : l.Like D l' → l.evaluate = l'.evaluate
  | .scalar _ | .named _ | .foreign _ => rfl
  | .object keys h => by rw [Literal.evaluate, Literal.evaluate, h.evaluateAll_eq hD]
  | .function h => by rw [Literal.evaluate, Literal.evaluate, hD _ _ h]

theorem Literal.AllLike.evaluateAll_eq (hD : ∀ d d', D d d' → d.resolve = d'.resolve)
    {ls ls' : List Literal} :
    Literal.AllLike D ls ls' → Literal.evaluateAll ls = Literal.evaluateAll ls'
  | .nil => rfl
  | .cons h hs => by
    rw [Literal.evaluateAll, Literal.evaluateAll, h.evaluate_eq hD, hs.evaluateAll_eq hD]

end

theorem ArgLiteral.Like.evaluate_eq (hD : ∀ d d', D d d' → d.resolve = d'.resolve)
    {a a' : ArgLiteral} (h : a.Like D a') :
    a.evaluate = a'.evaluate := by
  cases h with
  | generic h => rw [ArgLiteral.evaluate, ArgLiteral.evaluate, h.evaluate_eq hD]
  | text s => rfl
  | numeric x => rfl

theorem Step.perform_eq_of_like (hD : ∀ d d', D d d' → d.resolve = d'.resolve)
    {t t' : Step} (h : t.Like D t') : t.perform = t'.perform := by
  cases h with
  | same t => rfl
  | bind name h => simp only [Step.perform, h.evaluate_eq hD]
  | equal ha hb => simp only [Step.perform, ha.evaluate_eq hD, hb.evaluate_eq hD]
  | set name key h => simp only [Step.perform, h.evaluate_eq hD]
  | add name key h => simp only [Step.perform, h.evaluate_eq hD]
  | call function h entry => simp only [Step.perform, h.evaluate_eq hD]
  | classify h => simp only [Step.perform, h.evaluate_eq hD]
  | print stream h entry => simp only [Step.perform, h.evaluate_eq hD]

/-- A program does the same with drafts that make the same functions: the answers are the same, and
so is all that is left behind. -/
theorem Session.run_eq_of_like (hD : ∀ d d', D d d' → d.resolve = d'.resolve)
    {ts ts' : List Step} (h : List.Forall₂ (Step.Like D) ts ts')
    (s : Session) : s.run ts = s.run ts' := by
  induction h generalizing s with
  | nil => rfl
  | cons ht _ ih =>
    rw [Session.run, Session.run, Session.step, Session.step, Step.perform_eq_of_like hD ht]
    simp only [ih]

end ScriptHost.Script
