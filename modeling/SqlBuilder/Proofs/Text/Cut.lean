import SqlBuilder.Text.Cut

/-!
# Where a text is cut

A text is cut at a boundary of its UTF-8 bytes, the last one that is not past the limit. A character has four bytes at
most, so the limit is never more than three bytes past it.

* `isBoundary_iff_isValid` : the boundaries between characters are those of the bytes.
* `BacksOff` : a run of the loop that looks for a boundary; `exists_backsOff`, `BacksOff.steps_le` : it ends at a
  boundary, after three steps at most.
* `LongestPrefix` : the longest prefix of whole characters within a limit.
* `abridge_longest_prefix` : what is left of a text.
-/

namespace SqlBuilder.Text

set_option autoImplicit false

/-! ## Characters and their bytes -/

theorem byteLength_eq (cs : List Char) : byteLength cs = (String.ofList cs).utf8ByteSize := by
  induction cs with
  | nil => rfl
  | cons c cs ih =>
    rw [byteLength, ih, String.ofList_cons, String.utf8ByteSize_append, String.utf8ByteSize_singleton]

theorem byteLength_toList (s : String) : byteLength s.toList = s.utf8ByteSize := by
  rw [byteLength_eq, String.ofList_toList]

/-! ## Boundaries -/

theorem isBoundary_iff {cs : List Char} {offset : Nat} :
    isBoundary cs offset = true ↔ ∃ front back, cs = front ++ back ∧ byteLength front = offset := by
  induction cs generalizing offset with
  | nil =>
    cases offset with
    | zero => exact iff_of_true rfl ⟨[], [], rfl, rfl⟩
    | succ offset => simp [isBoundary, byteLength]
  | cons c cs ih =>
    cases offset with
    | zero => exact iff_of_true rfl ⟨[], c :: cs, rfl, rfl⟩
    | succ offset =>
      rw [isBoundary, Bool.and_eq_true, decide_eq_true_iff, ih]
      constructor
      · rintro ⟨fits, front, back, rfl, hfront⟩
        refine ⟨c :: front, back, rfl, ?_⟩
        rw [byteLength]
        omega
      · rintro ⟨front, back, hsplit, hfront⟩
        cases front with
        | nil => simp [byteLength] at hfront
        | cons d front =>
          obtain ⟨rfl, rfl⟩ := List.cons.inj hsplit
          rw [byteLength] at hfront
          exact ⟨by omega, front, back, rfl, by omega⟩

/-- A character starts, or the text ends, at the offsets at which the bytes before are whole characters. -/
theorem isBoundary_iff_isValid {s : String} {offset : Nat} :
    isBoundary s.toList offset = true ↔ String.Pos.Raw.IsValid s ⟨offset⟩ := by
  rw [isBoundary_iff, String.Pos.Raw.isValid_iff_exists_append]
  constructor
  · rintro ⟨front, back, hsplit, rfl⟩
    refine ⟨String.ofList front, String.ofList back, ?_, ?_⟩
    · rw [← String.ofList_append, ← hsplit, String.ofList_toList]
    · rw [byteLength_eq]
      rfl
  · rintro ⟨front, back, rfl, hoffset⟩
    refine ⟨front.toList, back.toList, String.toList_append, ?_⟩
    rw [byteLength_toList]
    exact (congrArg String.Pos.Raw.byteIdx hoffset).symm

theorem isValid_of_eq_append {s front back : String} (h : s = front ++ back) :
    String.Pos.Raw.IsValid s ⟨front.utf8ByteSize⟩ :=
  String.Pos.Raw.isValid_iff_exists_append.2 ⟨front, back, h, rfl⟩

theorem exists_boundary_near {cs : List Char} {limit : Nat} (h : limit < byteLength cs) :
    ∃ front back, cs = front ++ back ∧ byteLength front ≤ limit ∧ limit ≤ byteLength front + 3 := by
  induction cs generalizing limit with
  | nil => simp [byteLength] at h
  | cons c cs ih =>
    rw [byteLength] at h
    have size := c.utf8Size_le_four
    -- The limit is inside the first character, or in the text behind it.
    by_cases inside : limit < c.utf8Size
    · exact ⟨[], c :: cs, rfl, Nat.zero_le limit, by rw [byteLength]; omega⟩
    · have behind : limit - c.utf8Size < byteLength cs := by omega
      obtain ⟨front, back, rfl, before, near⟩ := ih behind
      refine ⟨c :: front, back, rfl, ?_, ?_⟩
      · rw [byteLength]
        omega
      · rw [byteLength]
        omega

/-! ## Backing off -/

/-- A run of the loop in a number of steps, from one offset to another. A step goes back one byte, from an offset that
is no boundary. -/
inductive BacksOff (s : String) : Nat → Nat → Nat → Prop
  | stay (offset : Nat) : BacksOff s 0 offset offset
  | back {steps offset stop : Nat} (inside : ¬ String.Pos.Raw.IsValid s ⟨offset + 1⟩)
      (rest : BacksOff s steps offset stop) : BacksOff s (steps + 1) (offset + 1) stop

theorem exists_backsOff (s : String) (limit : Nat) :
    ∃ steps, BacksOff s steps limit (floorBoundary s.toList limit) ∧
      String.Pos.Raw.IsValid s ⟨floorBoundary s.toList limit⟩ := by
  induction limit with
  | zero => exact ⟨0, .stay 0, String.Pos.Raw.isValid_zero⟩
  | succ limit ih =>
    by_cases boundary : isBoundary s.toList (limit + 1) = true
    · rw [floorBoundary, if_pos boundary]
      exact ⟨0, .stay (limit + 1), isBoundary_iff_isValid.1 boundary⟩
    · rw [floorBoundary, if_neg boundary]
      obtain ⟨steps, run, valid⟩ := ih
      exact ⟨steps + 1, .back (fun inside => boundary (isBoundary_iff_isValid.2 inside)) run, valid⟩

namespace BacksOff

variable {s : String} {steps start stop : Nat}

theorem add_steps (h : BacksOff s steps start stop) : stop + steps = start := by
  induction h with
  | stay offset => rfl
  | back inside rest ih => omega

theorem le_of_isValid (h : BacksOff s steps start stop) {offset : Nat} (hoffset : offset ≤ start)
    (boundary : String.Pos.Raw.IsValid s ⟨offset⟩) : offset ≤ stop := by
  induction h with
  | stay start => exact hoffset
  | @back steps start stop inside rest ih =>
    -- The offset of the step is no boundary, so the boundary is before it.
    have hne : offset ≠ start + 1 := by
      rintro rfl
      exact inside boundary
    exact ih (by omega)

theorem steps_le (h : BacksOff s steps start stop) (hstart : start < s.utf8ByteSize) : steps ≤ 3 := by
  rw [← byteLength_toList] at hstart
  obtain ⟨front, back, hsplit, before, near⟩ := exists_boundary_near hstart
  have boundary := isBoundary_iff_isValid.1 (isBoundary_iff.2 ⟨front, back, hsplit, rfl⟩)
  have notPassed := h.le_of_isValid before boundary
  have total := h.add_steps
  omega

end BacksOff

/-! ## The longest prefix -/

/-- A prefix of the text within a limit of bytes, of which every other such prefix is a prefix. -/
structure LongestPrefix (s : String) (limit : Nat) (kept : String) : Prop where
  starts : ∃ rest, s = kept ++ rest
  fits : kept.utf8ByteSize ≤ limit
  longest : ∀ front rest, s = front ++ rest → front.utf8ByteSize ≤ limit → ∃ more, kept = front ++ more

theorem takeBytes_append (front back : List Char) : takeBytes (front ++ back) (byteLength front) = front := by
  induction front with
  | nil =>
    cases back with
    | nil => rfl
    | cons c back =>
      have positive := c.utf8Size_pos
      rw [List.nil_append, takeBytes, if_neg (by rw [byteLength]; omega)]
  | cons c front ih =>
    rw [List.cons_append, takeBytes, byteLength, if_pos (Nat.le_add_right _ _), Nat.add_sub_cancel_left, ih]

theorem exists_append_or {front back front' back' : String} (h : front ++ back = front' ++ back') :
    (∃ more, front' = front ++ more) ∨ ∃ more, front = front' ++ more := by
  have lists : front.toList ++ back.toList = front'.toList ++ back'.toList := by
    rw [← String.toList_append, h, String.toList_append]
  obtain ⟨more, hmore, -⟩ | ⟨more, hmore, -⟩ := List.append_eq_append_iff.1 lists
  · refine .inl ⟨String.ofList more, String.toList_injective ?_⟩
    rw [hmore, String.toList_append, String.toList_ofList]
  · refine .inr ⟨String.ofList more, String.toList_injective ?_⟩
    rw [hmore, String.toList_append, String.toList_ofList]

theorem BacksOff.longestPrefix {s kept rest : String} {steps limit : Nat} (hs : s = kept ++ rest)
    (h : BacksOff s steps limit kept.utf8ByteSize) : LongestPrefix s limit kept where
  starts := ⟨rest, hs⟩
  fits := by
    have total := h.add_steps
    omega
  longest front rest' hfront fits := by
    have short := h.le_of_isValid fits (isValid_of_eq_append hfront)
    obtain ⟨more, hmore⟩ | ⟨more, hmore⟩ := exists_append_or (hfront.symm.trans hs)
    · exact ⟨more, hmore⟩
    · -- The other prefix is no shorter, and it does not have more bytes: they are the same.
      rw [hmore, String.utf8ByteSize_append] at short
      have none : more = "" := String.utf8ByteSize_eq_zero_iff.1 (by omega)
      exact ⟨"", by rw [hmore, none, String.append_empty, String.append_empty]⟩

/-! ## Cutting -/

/-- A text is left as it is when there is no limit or it has no more bytes than the limit. Else the longest prefix of
whole characters within the limit is left, and three dots. The place of the cut is found by going back from the limit,
three steps at most; it is a boundary of the text, so the bytes before it are whole characters. -/
theorem abridge_longest_prefix (s : String) :
    abridge none s = s ∧
    (∀ limit, s.utf8ByteSize ≤ limit → abridge (some limit) s = s) ∧
    ∀ limit, limit < s.utf8ByteSize →
      (∃ kept, abridge (some limit) s = kept ++ "..." ∧ LongestPrefix s limit kept ∧
        kept.utf8ByteSize = floorBoundary s.toList limit) ∧
      String.Pos.Raw.IsValid s ⟨floorBoundary s.toList limit⟩ ∧
      ∃ steps ≤ 3, BacksOff s steps limit (floorBoundary s.toList limit) := by
  refine ⟨rfl, fun limit fits => ?_, fun limit long => ?_⟩
  · rw [abridge, if_pos (by rwa [byteLength_toList])]
  · obtain ⟨steps, run, valid⟩ := exists_backsOff s limit
    refine ⟨?_, valid, steps, run.steps_le long, run⟩
    obtain ⟨kept, rest, hs, hstop⟩ := String.Pos.Raw.isValid_iff_exists_append.1 valid
    have stop : floorBoundary s.toList limit = kept.utf8ByteSize := congrArg String.Pos.Raw.byteIdx hstop
    refine ⟨kept, ?_, (stop ▸ run).longestPrefix hs, stop.symm⟩
    have taken : takeBytes s.toList kept.utf8ByteSize = kept.toList := by
      rw [hs, String.toList_append, ← byteLength_toList, takeBytes_append]
    rw [abridge, if_neg (by rw [byteLength_toList]; omega), stop, taken, String.ofList_toList]

/-- A limit inside a character of four bytes, at its last byte. -/
theorem abridge_longest_prefix_inside :
    9 < "aé€😀b".utf8ByteSize ∧ abridge (some 9) "aé€😀b" = "aé€..." ∧ LongestPrefix "aé€😀b" 9 "aé€" ∧
    String.Pos.Raw.IsValid "aé€😀b" ⟨6⟩ ∧ ∃ steps ≤ 3, BacksOff "aé€😀b" steps 9 6 := by
  have long : 9 < "aé€😀b".utf8ByteSize := by decide
  have stop : floorBoundary "aé€😀b".toList 9 = 6 := by decide
  have text : abridge (some 9) "aé€😀b" = "aé€..." := by decide
  obtain ⟨-, -, cut⟩ := abridge_longest_prefix "aé€😀b"
  obtain ⟨⟨kept, hkept, longest, -⟩, valid, run⟩ := cut 9 long
  have same : kept = "aé€" := (String.append_left_inj "...").1 (hkept.symm.trans text)
  exact ⟨long, text, same ▸ longest, stop ▸ valid, stop ▸ run⟩

end SqlBuilder.Text
