import JavaBuild.Proofs.CommandLine.Listing
import JavaBuild.Proofs.DependencyList

/-!
# Which line is blamed

A dependency list is refused for its first line with a token that is no spec, and for the first
such token of the line (`Blames`). Lines are counted as they are in the text (`Text.HasLines`),
with those that are empty or have only a remark. What follows the line does not count
(`loadList_blames`).
-/

namespace JavaBuild.DependencyList

open Text (HasLines IsBreak Spaced isLineEnd)

variable {line : List Char} {lines : List (List Char)} {specs tokens : List String}
  {e : EntryError} {n k : Nat}

/-! ## Tokens -/

/-- The tokens of a line are what stands between blanks in front of a remark. -/
inductive HasTokens : List Char → List String → Prop
  | mk {tokens : List String} {cs remark : List Char}
    (hwords : AreSpecs (tokens.map String.toList)) (h : Spaced (tokens.map String.toList) cs)
    (hremark : IsRemark remark) : HasTokens (cs ++ remark) tokens

theorem HasTokens.specsOf_eq (h : HasTokens line tokens) : specsOf line = tokens := by
  cases h with
  | mk hwords h hremark =>
    rw [specsOf_spaced hwords h hremark, List.map_map]
    exact List.map_id'' (fun t => String.ofList_toList) tokens

theorem exists_hasTokens (hline : ∀ c ∈ line, isLineEnd c = false) :
    ∃ tokens, HasTokens line tokens := by
  obtain ⟨cs, remark, rfl, hcs, hremark⟩ := Text.exists_span (· != '#') line
  obtain ⟨hends, hends'⟩ := List.forall_mem_append.1 hline
  obtain ⟨ws, hspaced, hws⟩ := Text.exists_spaced hends
  have hback : (ws.map String.ofList).map String.toList = ws := by simp
  refine ⟨ws.map String.ofList, .mk ?_ (hback.symm ▸ hspaced) ?_⟩
  · rw [hback]
    refine fun w hw => ⟨hws w hw, fun hc => ?_⟩
    simpa using hcs '#' (hspaced.mem_of_mem_word hw hc)
  · cases remark with
    | nil => exact .none
    | cons c remark =>
      obtain rfl : c = '#' := by simpa using hremark c rfl
      exact .comment (List.forall_mem_cons.1 hends').2

/-- The tokens of a line are its specs. -/
theorem hasTokens_iff (hline : ∀ c ∈ line, isLineEnd c = false) :
    HasTokens line tokens ↔ specsOf line = tokens := by
  refine ⟨HasTokens.specsOf_eq, fun h => ?_⟩
  obtain ⟨tokens', htokens⟩ := exists_hasTokens hline
  rwa [← h, htokens.specsOf_eq]

/-! ## Errors -/

/-- The first of these tokens that is no spec is rejected with this error. -/
def Rejects (tokens : List String) (e : EntryError) : Prop :=
  ∃ before t after, tokens = before ++ t :: after ∧
    (∀ u ∈ before, ∃ a, Artifact.ofSpec u = .ok a) ∧ Artifact.ofSpec t = .error e

/-- A spec alone is read as several are. -/
theorem entryOf_eq_error_iff : entryOf specs = .error e ↔ Rejects specs e := by
  rw [Rejects, ← mapM_eq_error_iff]
  match specs with
  | [] => simp [entryOf, pure, Except.pure]
  | [spec] =>
    rw [entryOf, map_eq_error_iff, List.mapM_cons, List.mapM_nil, bind_eq_error_iff]
    simp [bind, Except.bind, pure, Except.pure]
  | spec :: next :: specs => rw [entryOf_several, map_eq_error_iff]

/-- The lines are read up to the first one of which a token is rejected. -/
theorem ofLines_eq_error_iff : ofLines k lines = .error (n, e) ↔
    ∃ before line after, lines = before ++ line :: after ∧ n = k + before.length ∧
      (∀ l ∈ before, ∀ e, ¬Rejects (specsOf l) e) ∧ Rejects (specsOf line) e := by
  -- The number of the first line grows with every line that is read.
  induction lines generalizing k with
  | nil => simp [ofLines]
  | cons line lines ih =>
    rw [ofLines]
    constructor
    · intro h
      cases hread : entryOf (specsOf line) with
      | error e' =>
        rw [hread] at h
        cases h
        refine ⟨[], line, lines, rfl, rfl, fun l hl => ?_, entryOf_eq_error_iff.1 hread⟩
        exact absurd hl List.not_mem_nil
      | ok entry =>
        rw [hread] at h
        obtain ⟨before, line', after, rfl, rfl, hbefore, hline'⟩ := ih.1 (map_eq_error_iff.1 h)
        refine ⟨line :: before, line', after, rfl, ?_, List.forall_mem_cons.2 ⟨?_, hbefore⟩, hline'⟩
        · rw [List.length_cons]
          omega
        · intro e' he'
          cases hread.symm.trans (entryOf_eq_error_iff.2 he')
    · rintro ⟨before, line', after, hlines, rfl, hbefore, hline'⟩
      cases before with
      | nil =>
        cases hlines
        rw [entryOf_eq_error_iff.2 hline']
        rfl
      | cons l before =>
        cases hlines
        obtain ⟨hline, hbefore⟩ := List.forall_mem_cons.1 hbefore
        cases hread : entryOf (specsOf line) with
        | error e' => exact absurd (entryOf_eq_error_iff.1 hread) (hline e')
        | ok entry =>
          refine map_eq_error_iff.2 (ih.2 ⟨before, line', after, rfl, ?_, hbefore, hline'⟩)
          rw [List.length_cons]
          omega

/-! ## Texts -/

/-- A text is refused for the line of this number, which is the first of which a token is
    rejected, with the error of that token. -/
def Blames (lines : List (List Char)) (n : Nat) (e : EntryError) : Prop :=
  ∃ before line after, lines = before ++ line :: after ∧ n = before.length + 1 ∧
    (∀ l ∈ before, ∀ tokens, HasTokens l tokens → ∀ e, ¬Rejects tokens e) ∧
    ∃ tokens, HasTokens line tokens ∧ Rejects tokens e

theorem blames_iff (hlines : ∀ line ∈ lines, ∀ c ∈ line, isLineEnd c = false) :
    Blames lines n e ↔ ofLines 1 lines = .error (n, e) := by
  rw [ofLines_eq_error_iff, Blames]
  refine exists_congr fun before => exists_congr fun line => exists_congr fun after =>
    and_congr_right fun hparts => ?_
  rw [hparts, List.forall_mem_append, List.forall_mem_cons] at hlines
  obtain ⟨hbefore, hline, -⟩ := hlines
  rw [Nat.add_comm]
  refine and_congr_right' (and_congr ?_ ?_)
  · refine forall₂_congr fun l hl => ?_
    simp only [hasTokens_iff (hbefore l hl), forall_eq']
  · simp only [hasTokens_iff hline, exists_eq_left']

/-- The lines after the one that is blamed do not count. -/
theorem Blames.append (h : Blames lines n e) (tail : List (List Char)) :
    Blames (lines ++ tail) n e := by
  obtain ⟨before, line, after, rfl, hn, hbefore, hline⟩ := h
  exact ⟨before, line, after ++ tail, by simp, hn, hbefore, hline⟩

theorem Blames.of_append {tail : List (List Char)} (h : Blames (lines ++ tail) n e)
    (hn : n ≤ lines.length) : Blames lines n e := by
  obtain ⟨before, line, after, hlines, rfl, hbefore, hline⟩ := h
  rcases List.append_eq_append_iff.1 hlines with ⟨between, rfl, -⟩ | ⟨between, rfl, hbetween⟩
  · rw [List.length_append] at hn
    omega
  · cases between with
    | nil =>
      rw [List.append_nil] at hn
      omega
    | cons l between =>
      cases hbetween
      exact ⟨before, line, between, rfl, rfl, hbefore, hline⟩

/-- A line is blamed if a token of some line is no spec. -/
theorem exists_blames_iff (hlines : ∀ line ∈ lines, ∀ c ∈ line, isLineEnd c = false) :
    (∃ n e, Blames lines n e) ↔ ∃ line ∈ lines, ∃ tokens, HasTokens line tokens ∧
      ∃ t ∈ tokens, ∃ e, Artifact.ofSpec t = .error e := by
  constructor
  · rintro ⟨n, e, before, line, after, rfl, -, -, tokens, htokens, hrejects⟩
    obtain ⟨read, t, rest, rfl, -, ht⟩ := hrejects
    exact ⟨line, List.mem_append_cons_self, _, htokens, t, List.mem_append_cons_self, e, ht⟩
  · rintro ⟨line, hline, tokens, htokens, t, ht, e, he⟩
    have hnone : Artifact.ofSpec? t = none := by
      rw [Artifact.ofSpec] at he
      split at he
      · cases he
      · assumption
    rw [← htokens.specsOf_eq] at ht
    obtain ⟨⟨n, e⟩, h⟩ := ofLines_eq_error 1 ⟨line, hline, t, ht, hnone⟩
    exact ⟨n, e, (blames_iff hlines).2 h⟩

theorem runIn_loadList {text : String} {p : Path} {s : Session}
    (hread : s.workspace.readFile p = .ok text.toUTF8) (hlines : HasLines text.toList lines) :
    (loadList p).runIn s =
      ((ofLines 1 lines).mapError fun (number, e) => .listLine p number e, s) := by
  simp only [loadList, Work.runIn_bind, Work.readFile, Work.runIn_inspect, hread, mapError_ok,
    Work.runIn_ofExcept, entriesOfList, Text.decodeUtf8_toUTF8, parse, hlines.lines_eq]
  cases ofLines 1 lines <;> rfl

/-- Reading a dependency list fails if a token of some line is no spec. The error names the
    file and the number of the first such line, and tells why its first such token is rejected.
    Whatever else follows the end of this line, the error is the same. -/
theorem loadList_blames {text : String} {p : Path} {s : Session}
    (hread : s.workspace.readFile p = .ok text.toUTF8) :
    ∃ lines, HasLines text.toList lines ∧
      ((∃ f, ((loadList p).runIn s).1 = .error f) ↔ ∃ line ∈ lines, ∃ tokens,
        HasTokens line tokens ∧ ∃ t ∈ tokens, ∃ e, Artifact.ofSpec t = .error e) ∧
      ∀ f s', (loadList p).runIn s = (.error f, s') →
        s' = s ∧ ∃ n e, Blames lines n e ∧ f = .listLine p n e ∧
          f.message = s!"{p}:{n}: {e.message}" ∧
          ∀ front ending rest more ls s₁, text.toList = front ++ (ending ++ rest) →
            IsBreak ending → HasLines front ls → n ≤ ls.length →
            s₁.workspace.readFile p = .ok (String.ofList (front ++ (ending ++ more))).toUTF8 →
            (loadList p).runIn s₁ = (.error f, s₁) := by
  obtain ⟨lines, hlines⟩ := Text.exists_hasLines text.toList
  have hends : ∀ line ∈ lines, ∀ c ∈ line, isLineEnd c = false := fun _ =>
    hlines.isLineEnd_eq_false
  have hrun := runIn_loadList hread hlines
  refine ⟨lines, hlines, ?_, fun f s' hf => ?_⟩
  · rw [← exists_blames_iff hends, hrun]
    constructor
    · rintro ⟨f, hf⟩
      obtain ⟨⟨n, e⟩, h, -⟩ := mapError_eq_error_iff.1 hf
      exact ⟨n, e, (blames_iff hends).2 h⟩
    · rintro ⟨n, e, h⟩
      exact ⟨_, mapError_eq_error_iff.2 ⟨(n, e), (blames_iff hends).1 h, rfl⟩⟩
  · obtain ⟨herror, rfl⟩ := Prod.mk.inj (hrun.symm.trans hf)
    obtain ⟨⟨n, e⟩, h, rfl⟩ := mapError_eq_error_iff.1 herror
    have hblames := (blames_iff hends).2 h
    refine ⟨rfl, n, e, hblames, rfl, rfl, fun front ending rest more ls s₁ htext hending hfront hn
      hread₁ => ?_⟩
    -- The line is among those in front, which are the same in both texts.
    obtain ⟨tail, htail⟩ := hfront.append_break hending rest
    obtain ⟨tail₁, htail₁⟩ := hfront.append_break hending more
    rw [← htext, Text.hasLines_iff, hlines.lines_eq] at htail
    have hblames₁ : Blames (ls ++ tail₁) n e := (Blames.of_append (htail ▸ hblames) hn).append tail₁
    have hends₁ : ∀ line ∈ ls ++ tail₁, ∀ c ∈ line, isLineEnd c = false := fun _ =>
      htail₁.isLineEnd_eq_false
    rw [runIn_loadList hread₁ (by rwa [String.toList_ofList]), (blames_iff hends₁).1 hblames₁]
    rfl

/-- A list with a remark, an empty line, and a malformed spec after a proper one. -/
def sampleFaulty : String := "# g:a\r\n\r\ng:a:1 g:a # group\r"

/-- Why the spec is rejected. -/
def sampleReason : String :=
  "Invalid artifact spec 'g:a', expected group:id[:type[:classifier]]:version"

/-- The list in a file, with more text after the malformed spec. -/
def faultySession (more : String) : Session :=
  ⟨.holding [("deps.txt", sampleFaulty ++ more)], [], [], []⟩

theorem loadList_blames_sampleFaulty :
    (faultySession "").workspace.readFile (.ofString "deps.txt") = .ok sampleFaulty.toUTF8 ∧
    ∃ f, ((loadList (.ofString "deps.txt")).runIn (faultySession "")).1 = .error f ∧
      f.message = "deps.txt:3: " ++ sampleReason ∧
      ((loadList (.ofString "deps.txt")).runIn (faultySession "\nh")).1 = .error f := by
  have hread : (faultySession "").workspace.readFile (.ofString "deps.txt") =
      .ok sampleFaulty.toUTF8 := rfl
  have hblamed : ∀ r, ofLines 1 (Text.lines sampleFaulty.toList) = .error r →
      r.1 = 3 ∧ r.2.message = sampleReason := by decide +kernel
  have hline : ∀ c ∈ "g:a:1 g:a # group".toList, isLineEnd c = false := by decide
  obtain ⟨lines, hlines, hfails, hblames⟩ := loadList_blames hread
  obtain rfl := hlines.lines_eq
  obtain ⟨f, hf⟩ := hfails.2 ⟨"g:a:1 g:a # group".toList, by decide +kernel, ["g:a:1", "g:a"],
    (hasTokens_iff hline).2 (by decide +kernel), "g:a", by decide, _, rfl⟩
  obtain ⟨-, n, e, hn, rfl, hmessage, hmore⟩ := hblames f _ (Prod.ext hf rfl)
  rw [blames_iff fun _ => hlines.isLineEnd_eq_false] at hn
  obtain ⟨rfl, hreason⟩ := hblamed _ hn
  refine ⟨hread, _, hf, ?_, ?_⟩
  · rw [hmessage, hreason]
    rfl
  · have hagain := hmore "# g:a\r\n\r\ng:a:1 g:a # group".toList ['\r'] [] ['\n', 'h'] _
      (faultySession "\nh") (by decide) (.single rfl) (Text.hasLines_iff.2 rfl)
      (by decide +kernel) rfl
    rw [hagain]

end JavaBuild.DependencyList
