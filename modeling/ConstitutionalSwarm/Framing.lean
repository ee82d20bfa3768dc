import ConstitutionalSwarm.Apcc.Crypto
import ConstitutionalSwarm.Data.BigEndian
import ConstitutionalSwarm.Data.PyInt

namespace Framing

open Raising
open Apcc (Platform)

inductive Part where
  | bytes (value : Bytes)
  | text (value : String)
  | int (value : Int)
  deriving DecidableEq

def Part.payload : Part → Bytes
  | .bytes value => "b".encodeUTF8 ++ value
  | .text value => "s".encodeUTF8 ++ value.encodeUTF8
  | .int value => "i".encodeUTF8 ++ (toString value).encodeUTF8

def Part.tooLong : Part → Bool
  | .int value => !PyInt.fits value
  | .bytes _ | .text _ => false

def digestPrefix : Bytes :=
  "constitutional-swarm.framed-digest.v1\x00".encodeUTF8

def frame (payload : Bytes) : Py Bytes :=
  match BigEndian.framed 8 payload with
  | some framed => .ok framed
  | none => .error (.valueError "framed payload is too large")

def transcript : List Part → Py Bytes
  | [] => .ok []
  | part :: parts => do
    Apcc.raiseIf part.tooLong (.valueError "integer part cannot be encoded")
    let framed ← frame part.payload
    let rest ← transcript parts
    return framed ++ rest

def framedMessage (domain : Bytes) (parts : List Part) : Py Bytes := do
  Apcc.raiseIf (domain = []) (.valueError "domain must not be empty")
  let framedDomain ← frame domain
  let rest ← transcript parts
  return digestPrefix ++ framedDomain ++ rest

def framedDigest [Platform] (domain : Bytes) (parts : List Part) : Py Bytes := do
  let message ← framedMessage domain parts
  return Platform.sha256 message

theorem frame_eq_ok
    : frame payload = .ok framed ↔ BigEndian.framed 8 payload = some framed := by
  unfold frame
  split <;> simp_all

theorem toString_inj {i j : Int} (h : toString i = toString j) : i = j := by
  -- a sign is no digit
  have hsign : ∀ n m : ℕ, toString n ≠ "-" ++ toString m := by
    intro n m h
    have hdigit := PyInt.isDigit_of_mem_toString '-' (show '-' ∈ (toString n).toList by simp [h])
    exact absurd hdigit (by decide)
  cases i with
  | ofNat n =>
    cases j with
    | ofNat m => rw [PyInt.toString_injective h]
    | negSucc m => exact absurd h (hsign n (m + 1))
  | negSucc n =>
    cases j with
    | ofNat m => exact absurd h.symm (hsign m (n + 1))
    | negSucc m =>
      have hsucc := PyInt.toString_injective (String.append_right_inj "-" |>.mp h)
      rw [Nat.succ.inj hsucc]

theorem Part.payload_inj {a b : Part} : a.payload = b.payload ↔ a = b := by
  have htag : "b".encodeUTF8 = [98] ∧ "s".encodeUTF8 = [115] ∧ "i".encodeUTF8 = [105] := by
    decide
  constructor
  . intro h
    cases a <;> cases b <;>
      simp only [payload, htag, List.cons_append, List.nil_append, List.cons.injEq] at h
    . rw [h.2]
    . exact absurd h.1 (by decide)
    . exact absurd h.1 (by decide)
    . exact absurd h.1 (by decide)
    . rw [String.encodeUTF8_injective h.2]
    . exact absurd h.1 (by decide)
    . exact absurd h.1 (by decide)
    . exact absurd h.1 (by decide)
    . rw [toString_inj (String.encodeUTF8_injective h.2)]
  . rintro rfl
    rfl

theorem transcript_inj {as bs : List Part} {raw : Bytes} (ha : transcript as = .ok raw)
    (hb : transcript bs = .ok raw) : as = bs := by
  have hne : ∀ {part : Part} {framed : Bytes}, frame part.payload = .ok framed → framed ≠ [] := by
    intro part framed h hnil
    obtain ⟨_, hfront, happ⟩ := Option.map_eq_some_iff.mp (frame_eq_ok.mp h)
    have hlen := congrArg List.length (happ.trans hnil)
    rw [List.length_append, BigEndian.length_of_toBytes hfront, List.length_nil] at hlen
    omega
  induction as generalizing bs raw with
  | nil =>
    cases bs with
    | nil => rfl
    | cons b bs =>
      simp only [transcript, Except.ok.injEq, bind_eq_ok, pure_eq_ok] at ha hb
      obtain ⟨-, -, framed, hframed, rest, -, happ⟩ := hb
      rw [← ha] at happ
      exact absurd (List.append_eq_nil_iff.mp happ).1 (hne hframed)
  | cons a as ih =>
    cases bs with
    | nil =>
      simp only [transcript, Except.ok.injEq, bind_eq_ok, pure_eq_ok] at ha hb
      obtain ⟨-, -, framed, hframed, rest, -, happ⟩ := ha
      rw [← hb] at happ
      exact absurd (List.append_eq_nil_iff.mp happ).1 (hne hframed)
    | cons b bs =>
      simp only [transcript, Except.ok.injEq, bind_eq_ok, pure_eq_ok] at ha hb
      obtain ⟨-, -, framed, hframed, rest, hrest, happ⟩ := ha
      obtain ⟨-, -, _, hframed', _, hrest', happ'⟩ := hb
      obtain ⟨hpay, hrests⟩ := BigEndian.framed_append_inj (frame_eq_ok.mp hframed)
        (frame_eq_ok.mp hframed') (happ.trans happ'.symm)
      rw [Part.payload_inj.mp hpay, ih hrest (hrests ▸ hrest')]

theorem framedMessage_inj
    (ha : framedMessage domain as = .ok raw) (hb : framedMessage domain' bs = .ok raw)
    : domain = domain' ∧ as = bs := by
  simp only [framedMessage, bind_eq_ok, pure_inj, frame_eq_ok] at ha hb
  obtain ⟨-, -, _, hframed, _, hrest, rfl⟩ := ha
  obtain ⟨-, -, _, hframed', _, hrest', happ⟩ := hb
  simp only [List.append_assoc, List.append_cancel_left_eq] at happ
  obtain ⟨rfl, rfl⟩ := BigEndian.framed_append_inj hframed' hframed happ
  exact ⟨rfl, transcript_inj hrest hrest'⟩

end Framing
