import Mathlib.Init

/-! # Functions that raise

A function that may raise an exception returns `Except ε α`. `tryElse` is Python's `try` with one `except` and an
`else`; an exception that is not caught is raised further.
-/

namespace NexusGrid.Lib

variable {ε α β : Type}

/-- `try: a = x` / `except caught as e: fallback(e)` / `else: rest(a)`. -/
def tryElse (caught : ε → Bool) (x : Except ε α) (fallback : ε → Except ε β) (rest : α → Except ε β) : Except ε β :=
  match x with
  | .ok a => rest a
  | .error e => if caught e then fallback e else .error e

theorem map_bind_congr {γ δ : Type} {x y : Except ε α} {p : α → γ} {f g : α → Except ε β} {q : β → δ}
    (h : x.map p = y.map p) (hfg : ∀ a b, p a = p b → (f a).map q = (g b).map q) :
    (x >>= f).map q = (y >>= g).map q := by
  cases x with
  | error e =>
    cases y with
    | error e' => exact congrArg Except.error (Except.error.inj h)
    | ok b => cases h
  | ok a =>
    cases y with
    | error e => cases h
    | ok b => exact hfg a b (Except.ok.inj h)

end NexusGrid.Lib
