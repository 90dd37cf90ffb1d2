import JavaBuild.Proofs.Checkstyle.Run
import JavaBuild.Proofs.Checkstyle.Tally
import JavaBuild.Proofs.Text.Integer

/-!
# Results that can be shown

There is a page of a result unless a line or a column in it has too many digits
(`Result.page_eq_ok_iff`). Numbers of so many digits are not read either, so there is one of every
result that has been read from a report (`page_of_ofBytes`), and of the result of every run
(`Config.isShowable_of_createReport`).
-/

namespace JavaBuild.Checkstyle

variable {data : Path} {bytes : ByteArray} {root : Xml.Element} {r : Result}

theorem isShowableInteger_of_readNumber {text : String} {n : Int}
    (h : readNumber text = .ok n) : Text.isShowableInteger n := by
  cases hread : Text.readInteger text with
  | error e =>
    rw [readNumber, hread] at h
    cases h
  | ok m =>
    rw [readNumber, hread] at h
    cases h
    exact Text.isShowableInteger_of_readInteger hread

/-- A violation that has been read has a line and a column that can be shown. -/
theorem isShowable_of_readViolation {file : String} {e : Xml.Element} {v : Violation}
    (h : readViolation file e = .ok v) :
    Text.isShowableInteger v.line && v.column.all Text.isShowableInteger := by
  rw [readViolation_eq] at h
  obtain ⟨line, hline, h⟩ := bind_eq_ok_iff.1 h
  obtain ⟨column, hcolumn, h⟩ := bind_eq_ok_iff.1 h
  cases h
  rw [Bool.and_eq_true]
  refine ⟨isShowableInteger_of_readNumber hline, ?_⟩
  rw [readColumn] at hcolumn
  split at hcolumn
  · cases hcolumn
    rfl
  · cases hcolumn
    rfl
  · obtain ⟨n, hn, rfl⟩ := map_eq_ok_iff.1 hcolumn
    rw [Option.all_some]
    exact isShowableInteger_of_readNumber hn

/-- So a result that has been read from a report can be shown. -/
theorem isShowable_of_ofReport (h : Result.ofReport root = .ok r) : r.isShowable := by
  obtain ⟨violations, hviolations, h⟩ := bind_eq_ok_iff.1 h
  cases h
  refine List.all_eq_true.2 fun v hv => ?_
  obtain ⟨vs, hvs, hv⟩ := List.mem_flatten.1 hv
  obtain ⟨file, -, hfile⟩ := ((mapM_eq_ok hviolations).2 vs).1 hvs
  obtain ⟨e, -, he⟩ := ((mapM_eq_ok hfile).2 v).1 hv
  exact isShowable_of_readViolation he

theorem isShowable_of_ofBytes (h : Result.ofBytes data bytes = .ok r) : r.isShowable := by
  rw [Result.ofBytes] at h
  split at h
  · cases h
  · exact isShowable_of_ofReport h

theorem page_of_ofBytes (h : Result.ofBytes data bytes = .ok r) : r.page = .ok r.summary :=
  if_pos (isShowable_of_ofBytes h)

theorem Result.page_eq_ok_iff {content : String} :
    r.page = .ok content ↔ r.isShowable ∧ content = r.summary := by
  rw [Result.page]
  split
  · rename_i hshowable
    rw [Except.ok.injEq]
    exact ⟨fun h => ⟨hshowable, h.symm⟩, fun h => h.2.symm⟩
  · rename_i hshowable
    exact ⟨(nomatch ·), fun h => absurd h.1 hshowable⟩

/-- A run gives the result of a report, or an empty one. -/
theorem Config.isShowable_of_createReport {c : Config} {runner : Runner} {s s' : Session}
    (h : (c.createReport runner).runIn s = (.ok r, s')) : r.isShowable := by
  rcases createReport_ending c runner s with ⟨e, he⟩ | ⟨s₀, -, -, hend⟩
  · rw [h] at he
    cases he
  · rw [h] at hend
    cases hend with
    | reported hreported => exact isShowable_of_ofBytes hreported.result.symm
    | unread _ _ _ result => cases result
    | nothing _ => rfl

end JavaBuild.Checkstyle
