/-!
# Programs of requests

A program either is done or asks something and goes on with whatever reply it
gets. It is a finite tree: every sequence of replies leads to an end.
-/

namespace VpcOperator

inductive Program {Q : Type} (A : Q → Type) (α : Type) where
  | done (value : α)
  | ask (request : Q) (next : A request → Program A α)

namespace Program

variable {Q : Type} {A : Q → Type} {α β γ σ : Type}

def bind : Program A α → (α → Program A β) → Program A β
  | done value, f => f value
  | ask request next, f => ask request fun reply => (next reply).bind f

instance : Monad (Program A) where
  pure := done
  bind := bind

@[simp] theorem done_bind (value : α) (f : α → Program A β) : (done value).bind f = f value := rfl

theorem bind_done (p : Program A α) : p.bind done = p := by
  induction p with
  | done value => rfl
  | ask request next ih => simp [bind, ih]

theorem bind_assoc (p : Program A α) (f : α → Program A β) (g : β → Program A γ) :
    (p.bind f).bind g = p.bind fun value => (f value).bind g := by
  induction p with
  | done value => rfl
  | ask request next ih => simp [bind, ih]

/-- Puts each request in other words, in which it is replied to alike. -/
def translate {R : Type} {B : R → Type} (put : Q → R)
    (replied : (request : Q) → B (put request) → A request) : Program A α → Program B α
  | done value => done value
  | ask request next =>
    ask (put request) fun reply => (next (replied request reply)).translate put replied

theorem translate_bind {R : Type} {B : R → Type} (put : Q → R)
    (replied : (request : Q) → B (put request) → A request) (p : Program A α)
    (f : α → Program A β) :
    (p.bind f).translate put replied =
      (p.translate put replied).bind fun value => (f value).translate put replied := by
  induction p with
  | done value => rfl
  | ask request next ih => simp [bind, translate, ih]

/-- Runs a program against a responder with a state of its own. -/
def run (respond : (request : Q) → σ → A request × σ) : Program A α → σ → α × σ
  | done value, state => (value, state)
  | ask request next, state =>
    let (reply, state) := respond request state
    (next reply).run respond state

theorem run_bind (respond : (request : Q) → σ → A request × σ) (p : Program A α)
    (f : α → Program A β) (state : σ) :
    (p.bind f).run respond state =
      (f (p.run respond state).1).run respond (p.run respond state).2 := by
  induction p generalizing state with
  | done value => rfl
  | ask request next ih => exact ih _ _

end Program

end VpcOperator
