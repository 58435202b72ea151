import BeaconCheck.Proofs.Entries
import BeaconCheck.Proofs.Query.Decoding

/-!
# Queries in parts

A query is cut at its ampersands before anything in it is decoded, so two queries with an ampersand
between them are decoded each by itself: the parameters of both are those of the first with those
of the second put over them, and where one of them cannot be decoded both cannot, with the same
fault. What is in front of the question mark makes no difference.

* `Query.pairs_append`          — the pairs of two queries with an ampersand between them.
* `Query.IsPair`                — how a single pair is written.
* `Query.params_query`          — the parameters of a URL by the pairs of its query.
* `Query.params_join_eq_ok_iff` — the parameters of two queries.
* `Query.params_of_parts`       — the parameters of a query in two parts, and of a single pair.
-/

namespace BeaconCheck.Query

/-! ## Pairs -/

/-- **The pairs of two queries** with an ampersand between them are those of the first and those
of the second. -/
theorem pairs_append (first second : List Char) :
    pairs (first ++ '&' :: second) = do
      let found ← pairs first
      let more ← pairs second
      return found ++ more := by
  rw [pairs, pieces_append, List.mapM_append]
  rfl

/-- Two parts of a query are read if each of them is. -/
theorem pairs_append_eq_ok_iff {first second : List Char} {ps : List (String × String)} :
    pairs (first ++ '&' :: second) = .ok ps ↔
      ∃ found more, pairs first = .ok found ∧ pairs second = .ok more ∧ found ++ more = ps := by
  simp only [pairs_append, bind_eq_ok, pure, Except.pure, Except.ok.injEq, exists_and_left]

/-- The fault of two queries is one of the first or of the second alone. -/
theorem pairs_append_eq_error {first second : List Char} {fault : Utf8.Fault}
    (h : pairs (first ++ '&' :: second) = .error fault) :
    pairs first = .error fault ∨ pairs second = .error fault := by
  rw [pairs_append, bind_eq_error] at h
  rcases h with hFirst | ⟨found, -, h⟩
  · exact .inl hFirst
  · rcases bind_eq_error.mp h with hSecond | ⟨more, -, hNever⟩
    · exact .inr hSecond
    · cases hNever

/-- How a pair is written: a name, the first equals sign and a value, or a name alone, whose value
is empty. -/
inductive IsPair (name value : List Char) : List Char → Prop
  | both (hName : '=' ∉ name) : IsPair name value (name ++ '=' :: value)
  | alone (hName : '=' ∉ name) (hValue : value = []) : IsPair name value name

variable {name value piece : List Char}

/-- Without a mark nothing is cut. -/
theorem cut?_of_not_mem {mark : Char} {text : List Char} (h : mark ∉ text) :
    cut? mark text = none := by
  have hEnd := cut?_append_of_not_mem h []
  rwa [List.append_nil] at hEnd

/-- Every text writes a pair. -/
theorem exists_isPair (piece : List Char) : ∃ name value, IsPair name value piece := by
  by_cases hMark : '=' ∈ piece
  · obtain ⟨name, value, rfl, hName⟩ := List.eq_append_cons_of_mem hMark
    exact ⟨name, value, .both hName⟩
  · exact ⟨piece, [], .alone hMark rfl⟩

/-- A pair is cut at its equals sign. -/
theorem IsPair.cut (h : IsPair name value piece) :
    (cut? '=' piece).getD (piece, []) = (name, value) := by
  cases h with
  | both hName => rw [cut?_append hName, Option.getD_some]
  | alone hName hValue => rw [cut?_of_not_mem hName, hValue, Option.getD_none]

/-- A single pair is all that a query without an ampersand has. -/
theorem IsPair.pieces_eq (h : IsPair name value piece) (hSome : piece ≠ [])
    (hAmpersand : '&' ∉ piece) : pieces piece = [(name, value)] := by
  have hKept : [piece].filter (!·.isEmpty) = [piece] := by simpa using hSome
  rw [pieces, splitAt_of_not_mem hAmpersand, hKept, List.map_singleton, h.cut]

/-- The query of a single pair cannot be decoded exactly if the pair cannot. -/
theorem IsPair.exists_pairs_eq_error_iff (h : IsPair name value piece) (hSome : piece ≠ [])
    (hAmpersand : '&' ∉ piece) :
    (∃ fault, pairs piece = .error fault) ↔ Undecodable name ∨ Undecodable value := by
  have hPair : (∃ fault, decodePair (name, value) = .error fault) ↔ _ :=
    exists_decodePair_eq_error_iff (name, value)
  rw [pairs, h.pieces_eq hSome hAmpersand, List.mapM_cons, ← hPair]
  -- behind the one pair there is nothing that could fail
  refine (exists_bind_eq_error_iff fun pair => ?_).trans (or_iff_left id)
  exact iff_of_false (fun ⟨_, h⟩ => nomatch h) id

/-! ## Parameters -/

variable {base other first second query : String}

/-- **The parameters of a URL by the pairs of its query.** -/
theorem params_query (hBase : '?' ∉ base.toList) (hSome : query ≠ "")
    (hHash : '#' ∉ query.toList) :
    params (base ++ "?" ++ query) =
      ((pairs query.toList).map Entries.ofPairs).mapError
        (.undecodable (base ++ "?" ++ query)) := by
  -- nothing is cut off behind the query
  have hQuery : ofUrl? (base ++ "?" ++ query).toList = some query.toList := by
    have hUrl : (base ++ "?" ++ query).toList = base.toList ++ '?' :: query.toList := by
      simp [String.toList_append]
    rw [hUrl, ofUrl?_append hBase, before_of_not_mem hHash]
  have hFilled : query.toList ≠ [] := fun h => hSome (String.toList_eq_nil_iff.mp h)
  obtain ⟨c, rest, hChars⟩ := List.exists_cons_of_ne_nil hFilled
  rw [hChars] at hQuery ⊢
  simp only [params, hQuery]
  cases pairs (c :: rest) <;> rfl

/-- The parameters are those of the query's pairs. -/
theorem params_query_eq_ok_iff (hBase : '?' ∉ base.toList) (hSome : query ≠ "")
    (hHash : '#' ∉ query.toList) {found : Params} :
    params (base ++ "?" ++ query) = .ok found ↔
      ∃ ps, pairs query.toList = .ok ps ∧ found = Entries.ofPairs ps := by
  rw [params_query hBase hSome hHash]
  cases pairs query.toList with
  | error fault => exact iff_of_false nofun fun ⟨_, h, _⟩ => nomatch h
  | ok ps => simp [Except.map, Except.mapError, eq_comm]

/-- What cannot be decoded is told with the whole address. -/
theorem params_query_eq_error_iff (hBase : '?' ∉ base.toList) (hSome : query ≠ "")
    (hHash : '#' ∉ query.toList) {e : QueryError} :
    params (base ++ "?" ++ query) = .error e ↔
      ∃ fault, pairs query.toList = .error fault ∧
        e = .undecodable (base ++ "?" ++ query) fault := by
  rw [params_query hBase hSome hHash]
  cases pairs query.toList with
  | error fault => simp [Except.map, Except.mapError, eq_comm]
  | ok ps => exact iff_of_false nofun fun ⟨_, h, _⟩ => nomatch h

/-- The entries of two lists of pairs: a name has its value in the second list, if it has one
there. -/
theorem get?_ofPairs_append (found more : List (String × String)) (name : String) :
    Entries.get? (Entries.ofPairs (found ++ more)) name =
      (Entries.get? (Entries.ofPairs more) name).or
        (Entries.get? (Entries.ofPairs found) name) := by
  rw [Entries.get?_ofPairs, Entries.get?_ofPairs, Entries.get?_ofPairs, List.filter_append,
    List.getLast?_append, Option.map_or]

/-- The query of a single pair cannot be decoded exactly if the pair cannot. -/
theorem IsPair.exists_params_eq_error_iff (h : IsPair name value query.toList)
    (hBase : '?' ∉ base.toList) (hSome : query ≠ "") (hHash : '#' ∉ query.toList)
    (hAmpersand : '&' ∉ query.toList) :
    (∃ e, params (base ++ "?" ++ query) = .error e) ↔ Undecodable name ∨ Undecodable value := by
  have hFilled : query.toList ≠ [] := mt String.toList_eq_nil_iff.mp hSome
  rw [← h.exists_pairs_eq_error_iff hFilled hAmpersand]
  simp only [params_query_eq_error_iff hBase hSome hHash]
  constructor
  · rintro ⟨e, fault, hFault, -⟩
    exact ⟨fault, hFault⟩
  · rintro ⟨fault, hFault⟩
    exact ⟨_, fault, hFault, rfl⟩

/-! ## Two queries -/

theorem toList_join (first second : String) :
    (first ++ "&" ++ second).toList = first.toList ++ '&' :: second.toList := by
  simp [String.toList_append]

theorem join_ne_empty (first second : String) : first ++ "&" ++ second ≠ "" := by
  rw [Ne, ← String.toList_eq_nil_iff, toList_join]
  exact List.append_ne_nil_of_right_ne_nil _ (List.cons_ne_nil _ _)

theorem hash_not_mem_join (hFirst : '#' ∉ first.toList) (hSecond : '#' ∉ second.toList) :
    '#' ∉ (first ++ "&" ++ second).toList := by
  rw [toList_join]
  simpa using ⟨hFirst, hSecond⟩

/-- The parameters of two queries are those of their pairs. -/
theorem params_join_eq_ok_iff (hBase : '?' ∉ base.toList) (hFirst : '#' ∉ first.toList)
    (hSecond : '#' ∉ second.toList) {both : Params} :
    params (base ++ "?" ++ (first ++ "&" ++ second)) = .ok both ↔
      ∃ found more, pairs first.toList = .ok found ∧ pairs second.toList = .ok more ∧
        both = Entries.ofPairs (found ++ more) := by
  rw [params_query_eq_ok_iff hBase (join_ne_empty first second) (hash_not_mem_join hFirst hSecond),
    toList_join]
  -- the pieces of the whole are those of the two parts
  simp only [pairs_append_eq_ok_iff]
  constructor
  · rintro ⟨_, ⟨found, more, hFound, hMore, rfl⟩, rfl⟩
    exact ⟨found, more, hFound, hMore, rfl⟩
  · rintro ⟨found, more, hFound, hMore, rfl⟩
    exact ⟨_, ⟨found, more, hFound, hMore, rfl⟩, rfl⟩

/-- Where two queries cannot be decoded, the fault is in the pairs of one of them. -/
theorem params_join_eq_error (hBase : '?' ∉ base.toList) (hFirst : '#' ∉ first.toList)
    (hSecond : '#' ∉ second.toList) {e : QueryError}
    (h : params (base ++ "?" ++ (first ++ "&" ++ second)) = .error e) :
    ∃ fault, e = .undecodable (base ++ "?" ++ (first ++ "&" ++ second)) fault ∧
      (pairs first.toList = .error fault ∨ pairs second.toList = .error fault) := by
  have hHash := hash_not_mem_join hFirst hSecond
  obtain ⟨fault, hFault, rfl⟩ :=
    (params_query_eq_error_iff hBase (join_ne_empty first second) hHash).mp h
  rw [toList_join] at hFault
  exact ⟨fault, rfl, pairs_append_eq_error hFault⟩

/-- **A query is decoded in parts.** Two queries with an ampersand between them can be decoded
exactly if both can, behind whatever prefix, and a name has its value in the second then, or in the
first if the second does not have the name. If they cannot be decoded, the fault is one of the
first or of the second alone. The query of a single pair cannot be decoded exactly if some run of
ASCII characters in its name or its value is not unescaped to UTF-8. -/
theorem params_of_parts (hBase : '?' ∉ base.toList) (hOther : '?' ∉ other.toList)
    (hFirst : first ≠ "") (hSecond : second ≠ "") (hFirstHash : '#' ∉ first.toList)
    (hSecondHash : '#' ∉ second.toList) :
    let whole := base ++ "?" ++ (first ++ "&" ++ second)
    let front := other ++ "?" ++ first
    let back := other ++ "?" ++ second
    ((∃ both, params whole = .ok both) ↔
      (∃ found, params front = .ok found) ∧ ∃ more, params back = .ok more) ∧
    (∀ found more, params front = .ok found → params back = .ok more →
      ∃ both, params whole = .ok both ∧ (both.map Prod.fst).Nodup ∧
        ∀ name, Entries.get? both name = (Entries.get? more name).or (Entries.get? found name)) ∧
    (∀ e, params whole = .error e → ∃ fault, e = .undecodable whole fault ∧
      (params front = .error (.undecodable front fault) ∨
        params back = .error (.undecodable back fault))) ∧
    ('&' ∉ first.toList → ∃ name value, IsPair name value first.toList ∧
      ((∃ e, params front = .error e) ↔ Undecodable name ∨ Undecodable value)) := by
  intro whole front back
  -- each of the three queries is decoded from its own pieces; those of the whole are the two parts
  -- in turn
  have hFront {found} : params front = .ok found ↔ _ :=
    params_query_eq_ok_iff hOther hFirst hFirstHash
  have hBack {more} : params back = .ok more ↔ _ :=
    params_query_eq_ok_iff hOther hSecond hSecondHash
  have hWhole {both} : params whole = .ok both ↔ _ :=
    params_join_eq_ok_iff hBase hFirstHash hSecondHash
  refine ⟨⟨?_, ?_⟩, ?_, ?_, ?_⟩
  · rintro ⟨both, hOk⟩
    obtain ⟨found, more, hFound, hMore, -⟩ := hWhole.mp hOk
    exact ⟨⟨_, hFront.mpr ⟨found, hFound, rfl⟩⟩, _, hBack.mpr ⟨more, hMore, rfl⟩⟩
  · rintro ⟨⟨_, hFrontOk⟩, _, hBackOk⟩
    obtain ⟨found, hFound, -⟩ := hFront.mp hFrontOk
    obtain ⟨more, hMore, -⟩ := hBack.mp hBackOk
    exact ⟨_, hWhole.mpr ⟨found, more, hFound, hMore, rfl⟩⟩
  · intro found more hFrontOk hBackOk
    obtain ⟨foundPairs, hFound, rfl⟩ := hFront.mp hFrontOk
    obtain ⟨morePairs, hMore, rfl⟩ := hBack.mp hBackOk
    exact ⟨_, hWhole.mpr ⟨foundPairs, morePairs, hFound, hMore, rfl⟩,
      Entries.nodup_keys_ofPairs _, get?_ofPairs_append foundPairs morePairs⟩
  · intro e hError
    obtain ⟨fault, rfl, hFault⟩ := params_join_eq_error hBase hFirstHash hSecondHash hError
    refine ⟨fault, rfl, hFault.imp (fun h => ?_) fun h => ?_⟩
    · exact (params_query_eq_error_iff hOther hFirst hFirstHash).mpr ⟨fault, h, rfl⟩
    · exact (params_query_eq_error_iff hOther hSecond hSecondHash).mpr ⟨fault, h, rfl⟩
  · intro hAmpersand
    obtain ⟨name, value, hPair⟩ := exists_isPair first.toList
    exact ⟨name, value, hPair,
      hPair.exists_params_eq_error_iff hOther hFirst hFirstHash hAmpersand⟩

/-- Two queries with an empty pair, a second question mark, a name without an equals sign and a
name that both have. -/
theorem params_of_parts_with_repeated_name :
    '?' ∉ "https://x.test/c#a".toList ∧ '?' ∉ "".toList ∧ "a=1&&b=%2B" ≠ "" ∧
      "a=?é%C3%A9&c" ≠ "" ∧ '#' ∉ "a=1&&b=%2B".toList ∧ '#' ∉ "a=?é%C3%A9&c".toList ∧
      ∃ both,
        params ("https://x.test/c#a" ++ "?" ++ ("a=1&&b=%2B" ++ "&" ++ "a=?é%C3%A9&c")) =
          .ok both ∧
        ∀ name, Entries.get? both name =
          (Entries.get? [("a", "?éé"), ("c", "")] name).or
            (Entries.get? [("a", "1"), ("b", "+")] name) := by
  have hBase : '?' ∉ "https://x.test/c#a".toList := by decide
  have hFirst : '#' ∉ "a=1&&b=%2B".toList := by decide
  have hSecond : '#' ∉ "a=?é%C3%A9&c".toList := by decide
  -- both parts have a value for one name, and the second one counts
  have hFound : params ("" ++ "?" ++ "a=1&&b=%2B") = .ok [("a", "1"), ("b", "+")] := by rfl
  have hMore : params ("" ++ "?" ++ "a=?é%C3%A9&c") = .ok [("a", "?éé"), ("c", "")] := by rfl
  obtain ⟨both, hBoth, -, hGet⟩ :=
    (params_of_parts hBase (by decide) (by decide) (by decide) hFirst hSecond).2.1 _ _ hFound hMore
  exact ⟨hBase, by decide, by decide, by decide, hFirst, hSecond, both, hBoth, hGet⟩

end BeaconCheck.Query
