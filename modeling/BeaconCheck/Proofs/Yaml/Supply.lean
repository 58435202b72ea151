import BeaconCheck.Proofs.Text.Blocks
import BeaconCheck.Proofs.Yaml.Crashing
import BeaconCheck.Proofs.Yaml.Ending
import BeaconCheck.Yaml.Document
import Mathlib.Data.List.TakeWhile

/-!
# Files that are handed out in portions

A file that is a text in UTF-8, all of whose characters may stand in documents, is cut as a whole,
however it is handed out. Any other file has a fault, and is cut only up to it: cutting ends with
the fault or with a failure of the tokens before it, and no document is loaded.

* `Yaml.Document.Encodes`            — the bytes of a text without a fault.
* `Yaml.Document.fault?_eq_none_iff` — these are the files that have none.
* `Yaml.Document.tokens_of_encodes`  — the supply does not matter to them.
* `Yaml.Document.exists_tokens_of_fault` — how cutting ends for the others.
* `Yaml.Document.exists_encodes_of_ofBytes` — of which none is loaded.
-/

namespace BeaconCheck

/-- A text that was encoded can be decoded up to its end. -/
theorem Utf8.decodable_encoded (text : List Char) :
    decodable (text.flatMap String.utf8EncodeChar) = text := by
  rw [decodable, decode_flatMap_utf8EncodeChar]

namespace Yaml.Document

/-- The bytes are a text in UTF-8, all of whose characters may stand in documents. -/
structure Encodes (bytes : List UInt8) (text : List Char) : Prop where
  encoded : bytes = text.flatMap String.utf8EncodeChar
  admissible : text.all isAdmissible = true

variable {s : Supply} {bytes : List UInt8} {text : List Char}

/-! ## Faults -/

/-- Texts with the same bytes are the same. -/
theorem encoded_injective : Function.Injective fun text : List Char =>
    text.flatMap String.utf8EncodeChar :=
  Function.LeftInverse.injective Utf8.decodable_encoded

/-- Decoding gives the text that was encoded, however many bytes are decoded at a time. -/
theorem decode_eq_ok_iff : decode s bytes = .ok text ↔ bytes = text.flatMap String.utf8EncodeChar :=
  Utf8.decodeBlocks_eq_ok_iff (fun _ => Nat.add_pos_left (by decide) _) (Nat.lt_succ_self _)

/-- Bytes encode one text only. -/
theorem exists_encodes_iff : (∃ other, Encodes (text.flatMap String.utf8EncodeChar) other) ↔
    text.all isAdmissible = true := by
  constructor
  · rintro ⟨other, hOther⟩
    obtain rfl := encoded_injective hOther.encoded
    exact hOther.admissible
  · exact fun h => ⟨text, rfl, h⟩

/-- **Which files have no fault.** -/
theorem fault?_eq_none_iff : fault? s bytes = none ↔ ∃ text, Encodes bytes text := by
  rw [fault?]
  -- bytes that decode have a fault only in a character that is not admissible
  cases hText : decode s bytes with
  | ok text =>
    rw [decode_eq_ok_iff.mp hText, exists_encodes_iff]
    dsimp only
    split
    · next hAll => exact iff_of_true rfl hAll
    · next hNot => exact iff_of_false (Option.some_ne_none _) hNot
  | error fault =>
    refine iff_of_false (fun h => ?_) ?_
    · dsimp only at h
      split at h <;> cases h
    · rintro ⟨text, h⟩
      rw [decode_eq_ok_iff.mpr h.encoded] at hText
      cases hText

/-- **A file without a fault is cut as a whole**, however it is handed out. -/
theorem tokens_of_encodes (h : Encodes bytes text) :
    tokens s bytes = Token.scan (unifyLineEnds text) := by
  have hNone : fault? s bytes = none := fault?_eq_none_iff.mpr ⟨text, h⟩
  have hText : (Utf8.decodable bytes).takeWhile isAdmissible = text := by
    rw [h.encoded, Utf8.decodable_encoded]
    exact List.takeWhile_eq_self_iff.mpr (List.all_eq_true.mp h.admissible)
  rw [tokens, hNone, hText]

/-- **A file with a fault is never cut to its end.** -/
theorem exists_tokens_of_fault {fault : DocumentFailure} (h : fault? s bytes = some fault) :
    ∃ found failure, tokens s bytes = (found, some failure) ∧
      (failure = fault ∨ failure.IsLexical) := by
  rw [tokens, h]
  exact Token.exists_of_scanUntil fault s.pace _

/-- The value of a file without a fault is that of its text. -/
theorem ofBytes_of_encodes (h : Encodes bytes text) :
    ofBytes s bytes =
      ofTokens (Token.scan (unifyLineEnds text)).1 (Token.scan (unifyLineEnds text)).2 := by
  rw [ofBytes, tokens_of_encodes h]

/-- The value of a file without a fault is that of the node that its tokens make up. -/
theorem ofBytes_of_node {tokens : List Token} {n : Node} {v : Value} (h : Encodes bytes text)
    (hScan : Token.scan (unifyLineEnds text) = (tokens, none))
    (hNode : Node.ofTokens tokens none = .ok (some n)) (hValue : n.toValue = .ok v) :
    ofBytes s bytes = .ok v := by
  rw [ofBytes_of_encodes h, hScan, ofTokens, hNode]
  exact hValue

/-- Tokens behind which something fails make up no document. -/
theorem ofTokens_of_failure {found : List Token} {failure : DocumentFailure} {v : Value} :
    ofTokens found (some failure) ≠ .ok v := by
  intro h
  obtain ⟨n, hNode, -⟩ := bind_eq_ok.mp h
  exact Node.ofTokens_of_failure hNode

/-- **Only a file without a fault is loaded.** -/
theorem exists_encodes_of_ofBytes {v : Value} (h : ofBytes s bytes = .ok v) :
    ∃ text, Encodes bytes text := by
  cases hFault : fault? s bytes with
  | none => exact fault?_eq_none_iff.mp hFault
  | some fault =>
    obtain ⟨found, failure, hTokens, -⟩ := exists_tokens_of_fault hFault
    rw [ofBytes, hTokens] at h
    exact absurd h ofTokens_of_failure

end Yaml.Document

end BeaconCheck
