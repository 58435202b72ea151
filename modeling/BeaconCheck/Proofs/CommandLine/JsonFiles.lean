import Mathlib
import BeaconCheck.CommandLine.Execution
import BeaconCheck.Proofs.Yaml.Supply
import BeaconCheck.Proofs.Yaml.Values

/-!
# JSON in files

A JSON text in a file is read as a document, and not every JSON text means there what it means by
itself. A value is kept exactly if all of its parts are portable and every character is one that
documents may hold. How the file is handed out makes no difference.

* `Yaml.Document.ofBytes_json`     — the value of a JSON text in a document, if it has one.
* `Yaml.Document.ofBytes_json_iff` — when it is the value of the text by itself.
* `FileTree.document_json`         — the same for the text of a file.
-/

namespace BeaconCheck

namespace Yaml.Document

open Json

/-! ## Documents -/

/-- What follows on the tokens of a JSON text follows on its node, if it has one. -/
theorem bind_ofTokens {w : Whole} {tokens : List Token} (h : w.tokens? = some tokens)
    {f : Option Node → Except DocumentFailure Value} {v : Value} :
    (Node.ofTokens tokens none >>= f) = .ok v ↔
      ∃ n, w.source.node? = some n ∧ f (some n) = .ok v := by
  have hRead := Node.ofTokens_eq h
  -- the tokens of a written value are read as its node where it has one, and are refused otherwise
  cases hNode : w.source.node? with
  | none =>
    rw [hNode] at hRead
    obtain ⟨failure, hFailure⟩ := hRead
    rw [hFailure]
    constructor
    · intro hOk
      cases hOk
    · rintro ⟨n, ⟨⟩, -⟩
  | some n =>
    rw [hNode] at hRead
    have hOk : Node.ofTokens tokens none = .ok (some n) := hRead
    rw [hOk]
    constructor
    · exact fun hValue => ⟨n, rfl, hValue⟩
    · rintro ⟨m, ⟨⟩, hValue⟩
      exact hValue

/-- **The value of a JSON text in a document**: that of its node, if it can be cut and read. -/
theorem ofBytes_json {s : Supply} {w : Whole} {v : Value} :
    ofBytes s (w.text.flatMap String.utf8EncodeChar) = .ok v ↔
      w.text.all isAdmissible = true ∧ w.tokens?.isSome = true ∧
        ∃ n, w.source.node? = some n ∧ n.build = .ok v := by
  -- three stages, each of which the text has to pass: its characters, its tokens and its values
  cases hAll : w.text.all isAdmissible with
  | false =>
    refine iff_of_false (fun h => ?_) fun h => Bool.false_ne_true h.1
    rw [exists_encodes_iff.mp (exists_encodes_of_ofBytes h)] at hAll
    cases hAll
  | true =>
    refine Iff.trans ?_ (and_iff_right rfl).symm
    rw [ofBytes_of_encodes ⟨rfl, hAll⟩]
    cases hTokens : w.tokens? with
    | none =>
      refine iff_of_false (fun h => ?_) fun h => Bool.false_ne_true h.1
      obtain ⟨found, failure, hScan⟩ := scan_of_none hTokens
      rw [hScan] at h
      exact ofTokens_of_failure h
    | some tokens =>
      refine Iff.trans ?_ (and_iff_right rfl).symm
      rw [scan_of_tokens hTokens]
      exact (bind_ofTokens hTokens).trans (exists_congr fun n => and_congr_right fun _ => n.toValue_eq_ok)

/-- **A JSON text means the same in a document** exactly if it can stand there and its parts are
portable. -/
theorem ofBytes_json_iff {s : Supply} {w : Whole} (hNames : w.source.Has distinctNames) :
    ofBytes s (w.text.flatMap String.utf8EncodeChar) = .ok w.source.value ↔
      w.text.all isAdmissible = true ∧ w.Has portable := by
  rw [ofBytes_json, Whole.Has, ← kept_source w.source hNames, Source.Kept]
  simp only [Whole.tokens?, isSome_join, isSome_blanks, portable]
  tauto

end Yaml.Document

open Yaml

namespace FileTree

variable {files : FileTree} {path : String}

/-- A file is loaded as its bytes are, however they are handed out. -/
theorem document_eq_ok {bytes : List UInt8} (hPath : path.contains '\x00' = false)
    (hRead : files.read path = .ok bytes) {v : Value} :
    files.document path = .ok v ↔ Document.ofBytes (files.supply bytes) bytes = .ok v := by
  rw [document, hPath, hRead]
  simp only [Bool.false_eq_true, if_false]
  cases Document.ofBytes (files.supply bytes) bytes with
  | ok found => simp only [Except.ok.injEq]
  | error failure => cases failure <;> exact iff_of_false nofun nofun

/-- **What a JSON text means in a file.** Where no object has a name twice, the file has the value
of the text if and only if all characters may stand in documents and all parts are portable: no
blanks hold a tab, every number is written as an integer or with a point and a signed exponent,
every string keeps its letters when it is folded and its escapes are read one by one, and every
name can be a key. Two escapes for the halves of a surrogate pair are one character of the text, and
two letters in the file. -/
theorem document_json {text : List Char} {v : Value} (hPath : path.contains '\x00' = false)
    (hRead : files.read path = .ok (text.flatMap String.utf8EncodeChar))
    (hParse : Json.parse? (text.map .char) = some v) :
    (∃ w : Json.Whole, w.text = text ∧ w.source.value = v) ∧
      ∀ w : Json.Whole, w.text = text → w.source.value = v → w.source.Has Json.distinctNames →
        (files.document path = .ok v ↔
          text.all Document.isAdmissible = true ∧ w.Has Json.portable) := by
  refine ⟨Json.exists_whole_of_parse? hParse, ?_⟩
  rintro w rfl rfl hNames
  rw [document_eq_ok hPath hRead]
  exact Document.ofBytes_json_iff hNames

/-- A file with a text. -/
def ofText (text : String) : FileTree :=
  { files := [(["t"], text.toList.flatMap String.utf8EncodeChar)] }

theorem read_single (bytes : List UInt8) :
    ({ files := [(["t"], bytes)] } : FileTree).read "t" = .ok bytes := by
  have hParts : parts "t" = ["t"] := by
    rw [parts, String.splitOn, if_neg (by decide), String.splitOnAux, if_neg (by decide),
      if_neg (by decide), String.splitOnAux, if_pos (by decide)]
    rfl
  have hStart : ({ files := [(["t"], bytes)] } : FileTree).start "t" = [] := ite_self []
  rw [read, target, hParts, hStart]
  rfl

theorem read_ofText (text : String) :
    (ofText text).read "t" = .ok (text.toList.flatMap String.utf8EncodeChar) :=
  read_single _

/-- A file with a text is loaded as the node that its tokens make up. -/
theorem document_ofText {text : String} {tokens : List Token} {n : Node} {v : Value}
    (hAdmissible : text.toList.all Document.isAdmissible = true)
    (hLines : Document.unifyLineEnds text.toList = text.toList)
    (hScan : Token.scan text.toList = (tokens, none))
    (hNode : Node.ofTokens tokens none = .ok (some n)) (hValue : n.toValue = .ok v) :
    (ofText text).document "t" = .ok v :=
  (document_eq_ok (by simp) (read_ofText text)).mpr
    (Document.ofBytes_of_node ⟨rfl, hAdmissible⟩ (hLines.symm ▸ hScan) hNode hValue)

namespace Sample

open Json

/-- No blanks. -/
def tight : Blanks := ⟨[], List.forall_mem_nil _⟩

/-- A space. -/
def space : Blanks := ⟨[' '], List.forall_mem_singleton.mpr rfl⟩

/-- A digit by itself. -/
def digit (c : Char) (h : IsDigit c) : NumberText where
  negative := false
  whole := [c]
  fraction := []
  exponent := none
  wholeSpelled := ⟨List.cons_ne_nil c [], List.forall_mem_singleton.mpr h⟩
  noLeadingZero hZero := congrArg ([·]) (Option.some.inj hZero)
  fractionSpelled := List.forall_mem_nil _
  short _ _ := Nat.le_of_ble_eq_true rfl

/-- A list of two values under a name. -/
def listed : Whole where
  before := tight
  source := .object (.last ⟨tight, [.char 'a' (by decide)], tight, space⟩
    (.list (.more tight (.number (digit '7' rfl)) tight (.last space (.word .yes) tight))) tight)
  after := tight

/-- A thousand, written with an exponent and no point. -/
def thousand : NumberText where
  negative := false
  whole := ['1']
  fraction := []
  exponent := some ⟨'e', [], ['3'], .inl rfl, .inl rfl, List.cons_ne_nil _ _,
    List.forall_mem_singleton.mpr rfl⟩
  wholeSpelled := ⟨List.cons_ne_nil _ _, List.forall_mem_singleton.mpr rfl⟩
  noLeadingZero hZero := absurd (Option.some.inj hZero) (by decide)
  fractionSpelled := List.forall_mem_nil _
  short _ hNone := absurd hNone (Option.some_ne_none _)

/-- A list with a tab in it. -/
def tabbed : Whole where
  before := tight
  source := .list (.last ⟨['\t'], List.forall_mem_singleton.mpr rfl⟩ (.number (digit '7' rfl)) tight)
  after := tight

/-- The escape of a high half. -/
def high : CodeUnit := ⟨['d', '8', '3', 'd'], rfl, List.all_eq_true.mp rfl⟩

/-- The escape of a low half. -/
def low : CodeUnit := ⟨['d', 'e', '0', '0'], rfl, List.all_eq_true.mp rfl⟩

/-- A character beyond the basic plane, escaped by the halves of its surrogate pair. -/
def escaped : Whole where
  before := tight
  source := .string [.pair high low '😀' (by decide +kernel)]
  after := tight

end Sample

open Sample in
/-- The file of a list under a name has the value of its text. -/
theorem document_json_list :
    let text := "\x7b\"a\": [7, true]\x7d"
    Json.parse? (text.toList.map .char) = some listed.source.value ∧
      (ofText text).document "t" = .ok listed.source.value := by
  intro text
  have hParse : Json.parse? (text.toList.map .char) = some listed.source.value := by
    have hValue : listed.source.value = .object [(.text "a", .list [.int 7, .bool true])] := rfl
    rw [hValue]
    cbv
  have hText : listed.text = text.toList := by decide +kernel
  have hBoth := document_json (by simp) (read_ofText text) hParse
  -- what is left is about the written form, with its pieces named
  refine ⟨hParse, (hBoth.2 listed hText rfl ?_).mpr ⟨by decide +kernel, ?_⟩⟩
  · simp [listed, Json.Source.Has, Json.Items.Have, Json.Members.Have, Json.distinctNames,
      Json.Members.names]
  · have hKey : Json.Name.isKey ⟨tight, [.char 'a' (by decide)], tight, space⟩ = true := by
      decide +kernel
    have hFolded : Json.Piece.folded [.char 'a' (by decide)] = some [.char 'a'] := rfl
    have hNumber : Json.NumberText.isCommon (digit '7' rfl) = true := by decide +kernel
    simpa [listed, Json.Whole.Has, Json.Source.Has, Json.Items.Have, Json.Members.Have,
      Json.portable, tight, space, hFolded, Json.Piece.value] using And.intro hKey hNumber

open Sample in
/-- A number with an exponent and no point is a text in a file, a list with a tab in it cannot be
read there, and two escapes for one character are two letters there. -/
theorem document_json_differs :
    (∃ v, Json.parse? ("1e3".toList.map .char) = some v ∧ v.isNumeric = true ∧
      (ofText "1e3").document "t" = .ok (.text "1e3")) ∧
    (∃ v, Json.parse? ("[\t7]".toList.map .char) = some v ∧
      ∀ u, (ofText "[\t7]").document "t" ≠ .ok u) ∧
    Json.parse? ("\"\\ud83d\\ude00\"".toList.map .char) = some (.text "😀") ∧
      (ofText "\"\\ud83d\\ude00\"").document "t" =
        .ok (.text (.ofLetters [.ofCode 0xd83d, .ofCode 0xde00])) := by
  -- what the file of a text has is what its bytes have
  have hDocument {text : String} {w : Json.Whole} {v : Value} (hText : text.toList = w.text) :
      (ofText text).document "t" = .ok v ↔ Document.ofBytes {}
        (w.text.flatMap String.utf8EncodeChar) = .ok v := by
    rw [← hText]
    exact document_eq_ok (by simp) (read_ofText _)
  refine ⟨?_, ?_, ?_⟩
  · obtain ⟨v, hParse, hNumeric⟩ := Option.any_eq_true _ _ |>.mp
      (by decide +kernel : (Json.parse? ("1e3".toList.map .char)).any Value.isNumeric = true)
    let w : Json.Whole := ⟨tight, .number thousand, tight⟩
    have hText : "1e3".toList = w.text := by decide +kernel
    have hBuild : (Json.plainNode thousand.text).build = .ok (.text "1e3") := by
      rw [Json.build_number, if_neg (by decide +kernel)]
      rfl
    exact ⟨v, hParse, hNumeric, (hDocument hText).mpr
      (Document.ofBytes_json.mpr ⟨by decide +kernel, rfl, _, rfl, hBuild⟩)⟩
  · obtain ⟨v, hParse⟩ := Option.isSome_iff_exists.mp
      (by decide +kernel : (Json.parse? ("[\t7]".toList.map .char)).isSome = true)
    have hText : "[\t7]".toList = tabbed.text := by decide +kernel
    refine ⟨v, hParse, fun u h => ?_⟩
    have hTokens := (Document.ofBytes_json.mp ((hDocument hText).mp h)).2.1
    exact absurd hTokens (by decide +kernel)
  · have hText : "\"\\ud83d\\ude00\"".toList = escaped.text := by decide +kernel
    refine ⟨by cbv, (hDocument hText).mpr (Document.ofBytes_json.mpr
      ⟨by decide +kernel, by decide +kernel, _, rfl, Json.build_string rfl⟩)⟩

end FileTree

end BeaconCheck
