/-
  Pages as ranges of rows. A number and a size are words of 32 bits, so the offset of a page and the
  end of its range fit into a word of 64 bits, and the ranges that a dialect is given are those of
  the integers: page `n` of size `k` has the rows from `n * k` on, `k` of them. The pages of one
  size tile the rows, and the page of a row is found by division (`pages_tile`).
-/
import CriteriaSql.Proofs.Assembly
import Mathlib

namespace CriteriaSql

variable {s : Settings} {q : Query}

namespace Page

variable {p : Page} {n : UInt32} {row : Nat}

/-! ## Rows -/

/-- The same page size and order, at another number. -/
def atNumber (p : Page) (n : UInt32) : Page := { p with number := some n }

/-- The rows from the offset on, as many as the size says. -/
def rows (p : Page) : Set Nat :=
  Set.Ico p.offset.toNat (p.offset + p.effectiveSize.toUInt64).toNat

/-- The offset is the product of the integers. -/
theorem toNat_offset (p : Page) :
    p.offset.toNat = (p.number.getD 0).toNat * p.effectiveSize.toNat := by
  have hnumber := (p.number.getD 0).toNat_lt
  have hsize := p.effectiveSize.toNat_lt
  have hfits : (p.number.getD 0).toNat * p.effectiveSize.toNat < 2 ^ 64 :=
    calc (p.number.getD 0).toNat * p.effectiveSize.toNat
        < 2 ^ 32 * 2 ^ 32 := Nat.mul_lt_mul'' hnumber hsize
      _ = 2 ^ 64 := by decide
  rw [offset, UInt64.toNat_mul, UInt32.toNat_toUInt64, UInt32.toNat_toUInt64,
    Nat.mod_eq_of_lt hfits]

/-- The end of the rows is the sum of the integers. -/
theorem toNat_offset_add (p : Page) :
    (p.offset + p.effectiveSize.toUInt64).toNat = p.offset.toNat + p.effectiveSize.toNat := by
  have hnumber := (p.number.getD 0).toNat_lt
  have hsize := p.effectiveSize.toNat_lt
  have hend : ((p.number.getD 0).toNat + 1) * p.effectiveSize.toNat < 2 ^ 64 := by
    calc ((p.number.getD 0).toNat + 1) * p.effectiveSize.toNat
        ≤ 2 ^ 32 * p.effectiveSize.toNat := Nat.mul_le_mul_right _ hnumber
      _ < 2 ^ 32 * 2 ^ 32 := Nat.mul_lt_mul_of_pos_left hsize (by decide)
  rw [Nat.succ_mul, ← toNat_offset] at hend
  rw [UInt64.toNat_add, UInt32.toNat_toUInt64, Nat.mod_eq_of_lt hend]

/-- A row is on a page exactly if division by the size gives the number of the page. -/
theorem mem_rows_iff (hsize : 0 < p.effectiveSize) :
    row ∈ p.rows ↔ row / p.effectiveSize.toNat = (p.number.getD 0).toNat := by
  have hpos : 0 < p.effectiveSize.toNat := UInt32.lt_iff_toNat_lt.1 hsize
  rw [rows, Set.mem_Ico, toNat_offset_add, toNat_offset, Nat.div_eq_iff hpos]
  omega

theorem mem_rows_atNumber_iff (hsize : 0 < p.effectiveSize) :
    row ∈ (p.atNumber n).rows ↔ row / p.effectiveSize.toNat = n.toNat :=
  mem_rows_iff (p := p.atNumber n) hsize

/-- Two pages of one size have no row in common. -/
theorem disjoint_rows (hsize : 0 < p.effectiveSize) :
    Pairwise fun m n => Disjoint (p.atNumber m).rows (p.atNumber n).rows := by
  intro m n hne
  refine Set.disjoint_left.2 fun row hm hn => hne ?_
  rw [mem_rows_atNumber_iff hsize] at hm hn
  exact UInt32.toNat_inj.1 (hm.symm.trans hn)

/-- The page that division gives is there for each row before the end of the last page. -/
theorem exists_rows_iff (hsize : 0 < p.effectiveSize) :
    (∃ n, row ∈ (p.atNumber n).rows) ↔ row < 2 ^ 32 * p.effectiveSize.toNat := by
  have hpos : 0 < p.effectiveSize.toNat := UInt32.lt_iff_toNat_lt.1 hsize
  simp only [mem_rows_atNumber_iff hsize]
  rw [← Nat.div_lt_iff_lt_mul hpos]
  constructor
  · rintro ⟨n, hn⟩
    rw [hn]
    exact n.toNat_lt
  · intro hlt
    exact ⟨UInt32.ofNat (row / p.effectiveSize.toNat), (UInt32.toNat_ofNat_of_lt hlt).symm⟩

/-! ## Statements -/

/-- The same order without a page. -/
def uncut (p : Page) : Page := { p with number := none, size := none }

/-- Where a number or a size is given, the dialect is given the size and the offset. -/
theorem cut_of_given (hsize : 0 < p.effectiveSize) (hgiven : p.number ≠ none ∨ p.size ≠ none)
    (f : Fragment) :
    p.cut s f = ⟨s.dialect.page f.text p.effectiveSize p.offset, f.args⟩ := by
  have hcut : p.isCut = true := by
    rw [isCut, Bool.and_eq_true, Bool.or_eq_true, Option.isSome_iff_ne_none,
      Option.isSome_iff_ne_none, decide_eq_true_iff]
    exact ⟨hgiven, hsize⟩
  rw [cut, if_pos hcut]

/-- Without a number, the page of a given size is page 0. -/
theorem cut_atNumber_zero (hsize : 0 < p.effectiveSize) (hnumber : p.number = none)
    (hgiven : p.size ≠ none) (f : Fragment) : (p.atNumber 0).cut s f = p.cut s f := by
  have hoffset : (p.atNumber 0).offset = p.offset := by
    unfold offset
    rw [hnumber]
    rfl
  rw [cut_of_given hsize (Or.inr hgiven), cut_of_given (p := p.atNumber 0) hsize (Or.inr hgiven),
    hoffset]
  rfl

end Page

namespace Query

/-- The query for all rows, in the same order. -/
def uncut (q : Query) : Query := { q with page := q.page.uncut }

/-- The query for another page of the same size. -/
def atNumber (q : Query) (n : UInt32) : Query := { q with page := q.page.atNumber n }

/-- A SELECT of a page is the page cut out of the SELECT of all rows. -/
theorem selectOver_eq_cut (q : Query) (s : Settings) (columns : List String)
    (extra : Option Template) :
    q.selectOver s columns extra = (q.uncut.selectOver s columns extra).map (q.page.cut s) := by
  unfold selectOver
  change (q.schema s >>= _) = (q.schema s >>= _).map _
  cases q.schema s with
  | error e => rfl
  | ok schema =>
    change (q.rows s schema _ extra >>= _) = (q.rows s schema _ extra >>= _).map _
    cases q.rows s schema (schema.join.toList ++ extra.toList) extra with
    | error e => rfl
    | ok rows =>
      change (q.page.orderBy s.mapCamelCase >>= _) = (q.page.orderBy s.mapCamelCase >>= _).map _
      cases q.page.orderBy s.mapCamelCase <;> rfl

/-- The dialect cuts a page out of the SELECT of all rows by its size and its offset. -/
theorem selectOver_of_given (hsize : 0 < q.page.effectiveSize)
    (hgiven : q.page.number ≠ none ∨ q.page.size ≠ none) (columns : List String)
    (extra : Option Template) :
    q.selectOver s columns extra =
      (q.uncut.selectOver s columns extra).map fun f =>
        ⟨s.dialect.page f.text q.page.effectiveSize q.page.offset, f.args⟩ := by
  rw [selectOver_eq_cut]
  exact congrArg (Except.map · _) (funext (Page.cut_of_given hsize hgiven))

/-- For a page size that is given or the default, the offset of page `n` and the end of its range
    are the integers `n * size` and `n * size + size`. A SELECT of the page is what the dialect
    makes of the SELECT of all rows, the size and this offset; without a number, the page is page 0.
    The ranges of any two pages are disjoint, together they are the rows below `2 ^ 32 * size`, and
    a row is on exactly that page whose number is the row divided by the size. -/
theorem pages_tile (s : Settings) (q : Query) (hsize : 0 < q.page.effectiveSize) :
    (∀ n, (q.page.atNumber n).offset.toNat = n.toNat * q.page.effectiveSize.toNat ∧
      ((q.page.atNumber n).offset + q.page.effectiveSize.toUInt64).toNat =
        n.toNat * q.page.effectiveSize.toNat + q.page.effectiveSize.toNat) ∧
    (∀ columns extra n, (q.atNumber n).selectOver s columns extra =
      (q.uncut.selectOver s columns extra).map fun f =>
        ⟨s.dialect.page f.text q.page.effectiveSize (q.page.atNumber n).offset, f.args⟩) ∧
    (q.page.number = none → q.page.size ≠ none → ∀ columns extra,
      q.selectOver s columns extra = (q.atNumber 0).selectOver s columns extra) ∧
    (Pairwise fun m n => Disjoint (q.page.atNumber m).rows (q.page.atNumber n).rows) ∧
    (⋃ n, (q.page.atNumber n).rows) = Set.Iio (2 ^ 32 * q.page.effectiveSize.toNat) ∧
    ∀ row < 2 ^ 32 * q.page.effectiveSize.toNat, ∃ n : UInt32,
      n.toNat = row / q.page.effectiveSize.toNat ∧
        ∀ m, row ∈ (q.page.atNumber m).rows ↔ m = n := by
  refine ⟨fun n => ?_, fun columns extra n => ?_, fun hnumber hgiven columns extra => ?_,
    Page.disjoint_rows hsize, ?_, fun row hrow => ?_⟩
  · have hoffset := (q.page.atNumber n).toNat_offset
    exact ⟨hoffset, hoffset ▸ (q.page.atNumber n).toNat_offset_add⟩
  · exact selectOver_of_given (q := q.atNumber n) hsize (Or.inl (Option.some_ne_none n)) columns
      extra
  · have hsame : (q.atNumber 0).page.cut s = q.page.cut s :=
      funext (Page.cut_atNumber_zero hsize hnumber hgiven)
    rw [selectOver_eq_cut, (q.atNumber 0).selectOver_eq_cut, hsame]
    rfl
  · ext row
    rw [Set.mem_iUnion, Set.mem_Iio, Page.exists_rows_iff hsize]
  · obtain ⟨n, hn⟩ := (Page.exists_rows_iff hsize).2 hrow
    have hnumber := (Page.mem_rows_atNumber_iff hsize).1 hn
    refine ⟨n, hnumber.symm, fun m => ?_⟩
    rw [Page.mem_rows_atNumber_iff hsize, hnumber, eq_comm, UInt32.toNat_inj]

/-- The last page of the largest size. -/
def lastPage : Query :=
  ⟨⟨"UserQuery", some ["age"], "user", none, none, []⟩, .record [("age", .text "7")],
    ⟨some 4294967295, some 4294967295, none⟩⟩

set_option maxRecDepth 20000 in
theorem pages_tile_lastPage :
    lastPage.select .default [] =
        .ok ⟨"SELECT * FROM user WHERE age = ? LIMIT 4294967295 OFFSET 18446744065119617025",
          [.text "7"]⟩ ∧
      0 < lastPage.page.effectiveSize ∧
      (lastPage.page.atNumber 4294967295).offset.toNat = 4294967295 * 4294967295 ∧
      ∃ n : UInt32, n.toNat = 18446744065119617025 / 4294967295 ∧
        ∀ m, 18446744065119617025 ∈ (lastPage.page.atNumber m).rows ↔ m = n := by
  have hsize : 0 < lastPage.page.effectiveSize := by decide
  obtain ⟨hoffset, -, -, -, -, hrows⟩ := pages_tile .default lastPage hsize
  exact ⟨by cbv, hsize, (hoffset 4294967295).1, hrows 18446744065119617025 (by decide)⟩

end Query

end CriteriaSql
