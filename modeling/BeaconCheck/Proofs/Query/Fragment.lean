import BeaconCheck.Proofs.Query.Cutting

/-!
# Fragments of URLs

A URL is cut at its first question mark before its fragment is cut off. A question mark in front
of the fragment settles where the query is, and the fragment is dropped with its hash. Without one
the first question mark of the fragment begins the query, so the parameters of the fragment are
taken for those of the URL.

* `Query.SameParams`             — two URLs have the same parameters, or neither has any.
* `Query.ofUrl?_fragment`        — where the query of a URL with a fragment is.
* `Query.sameParams_fragment_iff` — when a fragment makes no difference, and what it does else.
* `Query.fragment_read_as_query` — a fragment that gives a URL parameters.
-/

namespace BeaconCheck.Query

/-- The URLs have the same parameters, or neither has any. -/
def SameParams (url other : String) : Prop :=
  ∀ found, params url = .ok found ↔ params other = .ok found

/-- Only the query of a URL matters to its parameters. -/
theorem sameParams_of_ofUrl? {url other : String}
    (h : ofUrl? url.toList = ofUrl? other.toList) : SameParams url other := by
  intro found
  rw [params_eq_ok_iff, params_eq_ok_iff, h]

/-- **The query of a URL with a fragment** is that of the URL if it has a question mark, and that
of the fragment if it has none. -/
theorem ofUrl?_fragment {url : List Char} (hHash : '#' ∉ url) (fragment : List Char) :
    ofUrl? (url ++ '#' :: fragment) = if '?' ∈ url then ofUrl? url else ofUrl? fragment := by
  split
  · next hMark =>
    obtain ⟨base, query, rfl, hBase⟩ := List.eq_append_cons_of_mem hMark
    -- the hash of the fragment is the first one behind the question mark
    have hQuery : '#' ∉ query := fun h =>
      hHash (List.mem_append_right base (List.mem_cons_of_mem '?' h))
    rw [List.append_assoc, List.cons_append, ofUrl?_append hBase, ofUrl?_append hBase,
      before_append hQuery, before_of_not_mem hQuery]
  · next hMark =>
    -- neither the URL nor the hash behind it has a question mark
    have hNone : '?' ∉ url ++ ['#'] := by simpa using hMark
    rw [List.append_cons, ofUrl?_append_of_not_mem hNone]

/-- **When a fragment makes no difference.** A URL has the same parameters with a fragment and
without it exactly if there is a question mark in front of the fragment, or if the fragment has no
parameters, taken for a URL itself. In every other case the URL has none of its own, and those of
the fragment are read in their place. -/
theorem sameParams_fragment_iff {url : String} (hHash : '#' ∉ url.toList) (fragment : String) :
    (SameParams (url ++ "#" ++ fragment) url ↔
      '?' ∈ url.toList ∨ ∀ found, params fragment ≠ .ok found) ∧
    ('?' ∉ url.toList → params url = .error (.noQuery url) ∧
      SameParams (url ++ "#" ++ fragment) fragment) := by
  have hQuery : ofUrl? (url ++ "#" ++ fragment).toList =
      if '?' ∈ url.toList then ofUrl? url.toList else ofUrl? fragment.toList := by
    rw [← ofUrl?_fragment hHash]
    simp [String.toList_append]
  by_cases hMark : '?' ∈ url.toList
  · rw [if_pos hMark] at hQuery
    exact ⟨iff_of_true (sameParams_of_ofUrl? hQuery) (.inl hMark), fun h => absurd hMark h⟩
  · rw [if_neg hMark] at hQuery
    have hFragment : SameParams (url ++ "#" ++ fragment) fragment := sameParams_of_ofUrl? hQuery
    have hUrl : params url = .error (.noQuery url) := by
      rw [params, ofUrl?_of_not_mem hMark]
    refine ⟨?_, fun _ => ⟨hUrl, hFragment⟩⟩
    -- the URL has no parameters, so the fragment must have none either
    rw [or_iff_right hMark]
    constructor
    · intro hSame found hFound
      have hWrong : params url = .ok found := (hSame found).mp ((hFragment found).mpr hFound)
      rw [hUrl] at hWrong
      cases hWrong
    · intro hNone found
      refine iff_of_false (fun h => hNone found ((hFragment found).mp h)) fun h => ?_
      rw [hUrl] at h
      cases h

/-- A query and a fragment with a question mark of its own, which is dropped. -/
theorem sameParams_fragment_behind_query :
    '#' ∉ "https://x.test/c?t=event".toList ∧
      SameParams ("https://x.test/c?t=event" ++ "#" ++ "top?t=view")
        "https://x.test/c?t=event" := by
  have hHash : '#' ∉ "https://x.test/c?t=event".toList := by decide
  exact ⟨hHash, (sameParams_fragment_iff hHash "top?t=view").1.mpr (.inl (by decide))⟩

/-- A URL without a query, which a fragment with a question mark gives a parameter. -/
theorem fragment_read_as_query :
    '#' ∉ "https://x.test/".toList ∧
      params "https://x.test/" = .error (.noQuery "https://x.test/") ∧
      params ("https://x.test/" ++ "#" ++ "?t=event") = .ok [("t", "event")] ∧
      ¬ SameParams ("https://x.test/" ++ "#" ++ "?t=event") "https://x.test/" := by
  have hUrl : params "https://x.test/" = .error (.noQuery "https://x.test/") := by rfl
  have hFragment : params ("https://x.test/" ++ "#" ++ "?t=event") = .ok [("t", "event")] := by rfl
  refine ⟨by decide, hUrl, hFragment, fun hSame => ?_⟩
  have hWrong := (hSame _).mp hFragment
  rw [hUrl] at hWrong
  cases hWrong

end BeaconCheck.Query
