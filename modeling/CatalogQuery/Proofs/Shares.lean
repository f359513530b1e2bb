/-
Samples of records.  What is kept of a stream is settled by the hashes of the identifiers, so a
sample is part of each greater one and a sample of nothing is empty.  A sample of everything still
lacks some records: the last hashes are rounded up to the whole.
-/
import CatalogQuery.Filter.Sampling
import CatalogQuery.Proofs.Binary64.Words
import CatalogQuery.Proofs.SetOperators

namespace CatalogQuery

/-- The arguments ask for a share of the records, and for hashes under a seed. -/
structure Arguments.Samples (args : Arguments) (share : Binary64) (seed : UInt64) : Prop where
  asked : args.float? 0 "fraction" = some share
  nonnegative : Filter.zero.isAtMost share = true
  atMostOne : share.isAtMost Filter.one = true
  seeded : ((args.int? 1 "seed").map Int64.toUInt64).getD 0 = seed

theorem Arguments.Samples.sample {args : Arguments} {share : Binary64} {seed : UInt64}
    (h : args.Samples share seed) (input : FileSet) :
    Filter.sample [input] args = .finish (.ok (Filter.inSample share seed input.stream)) := by
  simp only [Filter.sample, Filter.singleInput, bind, Except.bind, h.asked, h.nonnegative,
    h.atMostOne, h.seeded, Bool.and_self, ↓reduceIte]

namespace Filter

/-- The hash that a record has under a seed. -/
def hashOf (seed : UInt64) (record : Record) : UInt64 :=
  Xxh3.hash record.id.toUTF8.data seed

section Sample

variable {σ : Type} (stores : Stores σ) (state : σ) (share : Binary64) (seed : UInt64)
  (records : RecordStream)

theorem recordsOf_inSample :
    recordsOf ((inSample share seed records).play stores state).trace.items =
      (recordsOf (records.play stores state).trace.items).filter
        fun record => inShare share (hashOf seed record) := by
  rw [inSample, RecordStream.items_filterIds, recordsOf_ofFiles]
  rfl

theorem failuresOf_inSample :
    failuresOf ((inSample share seed records).play stores state).trace.items =
      failuresOf (records.play stores state).trace.items := by
  rw [inSample, RecordStream.items_filterIds, failuresOf_ofFiles]

end Sample

theorem inShare_of_isAtMost {share greater : Binary64} (h : share.isAtMost greater = true)
    {hash : UInt64} (hshare : inShare share hash = true) : inShare greater hash = true :=
  Binary64.isBelow_of_isAtMost hshare h

theorem inShare_zero {share : Binary64} (h : share.equals zero = true) (hash : UInt64) :
    inShare share hash = false := by
  rw [inShare, Binary64.isBelow_congr h]
  exact Binary64.not_isBelow_zero hash.toNat_lt

theorem inShare_one {share : Binary64} (h : share.equals one = true) (hash : UInt64) :
    inShare share hash = decide (hash.toNat < 2 ^ 64 - 1024) := by
  rw [inShare, Binary64.isBelow_congr h, Bool.eq_iff_iff, decide_eq_true_iff]
  exact Binary64.isBelow_one_iff hash.toNat_lt

end Filter

/-- A sample passes each failure on, and its records are, in order, among those of a sample of a
greater share with the same seed.  A sample of nothing has no records.  A sample of everything has
all of them exactly if none has one of the last thousand and twenty-four hashes. -/
theorem sample_nested {args : Arguments} {share : Binary64} {seed : UInt64}
    (h : args.Samples share seed) (input : FileSet) :
    ∃ kept, Filter.sample [input] args = .finish (.ok kept) ∧
      ∀ (σ : Type) (stores : Stores σ) (state : σ),
        let given := (input.stream.play stores state).trace.items
        let sampled := (kept.play stores state).trace.items
        failuresOf sampled = failuresOf given ∧
          (∀ (more : Arguments) greater, more.Samples greater seed →
            share.isAtMost greater = true →
            ∃ wider, Filter.sample [input] more = .finish (.ok wider) ∧
              (recordsOf sampled).Sublist (recordsOf (wider.play stores state).trace.items)) ∧
          (share.equals Filter.zero = true → recordsOf sampled = []) ∧
          (share.equals Filter.one = true →
            (recordsOf sampled = recordsOf given ↔
              ∀ record ∈ recordsOf given, (Filter.hashOf seed record).toNat < 2 ^ 64 - 1024)) := by
  refine ⟨_, h.sample input, fun σ stores state => ⟨Filter.failuresOf_inSample stores state _ _ _,
    fun more greater hmore hle => ⟨_, hmore.sample input, ?_⟩, fun hzero => ?_, fun hone => ?_⟩⟩
  · rw [Filter.recordsOf_inSample, Filter.recordsOf_inSample]
    exact List.monotone_filter_right _ fun _ => Filter.inShare_of_isAtMost hle
  · simp only [Filter.recordsOf_inSample, Filter.inShare_zero hzero, List.filter_false]
  · simp only [Filter.recordsOf_inSample, Filter.inShare_one hone, List.filter_eq_self,
      decide_eq_true_iff]

/-- A share under a seed that turns the hash of `a` into the last word. -/
def shareOf (share : Constant) : Arguments where
  positional := [share, .int 7820610836700094291]

def half : Binary64 := ⟨0x3FE0000000000000⟩

theorem zero_isAtMost_one : Filter.zero.isAtMost Filter.one = true := by
  refine Binary64.isAtMost_iff.mpr ⟨Binary64.isNaN_ofInt 0, Binary64.isNaN_ofInt 1, ?_⟩
  rw [Filter.zero, Filter.one, Binary64.signedUnits_ofInt_zero, Binary64.signedUnits_ofInt_one]
  exact Int.natCast_nonneg _

theorem samples_shareOf_half : (shareOf (.float half)).Samples half 7820610836700094291 :=
  ⟨rfl, by decide, by decide +kernel, by decide⟩

theorem samples_shareOf_zero : (shareOf (.int 0)).Samples Filter.zero 7820610836700094291 :=
  ⟨rfl, Binary64.isAtMost_self (Binary64.isNaN_ofInt 0), zero_isAtMost_one, by decide⟩

theorem samples_shareOf_one : (shareOf (.int 1)).Samples Filter.one 7820610836700094291 :=
  ⟨rfl, zero_isAtMost_one, Binary64.isAtMost_self (Binary64.isNaN_ofInt 1), by decide⟩

theorem sample_nested_interrupted :
    ((shareOf (.int 0)).Samples Filter.zero 7820610836700094291 ∧
        (shareOf (.float half)).Samples half 7820610836700094291 ∧
        Filter.zero.isAtMost half = true ∧ Filter.zero.equals Filter.zero = true ∧
        ∃ kept, Filter.sample [interruptedRecords] (shareOf (.int 0)) = .finish (.ok kept) ∧
          recordsOf (kept.play emptyStores ()).trace.items = [] ∧
          ∃ wider, Filter.sample [interruptedRecords] (shareOf (.float half)) =
              .finish (.ok wider) ∧
            (recordsOf (kept.play emptyStores ()).trace.items).Sublist
              (recordsOf (wider.play emptyStores ()).trace.items)) ∧
      (shareOf (.int 1)).Samples Filter.one 7820610836700094291 ∧
        Filter.one.equals Filter.one = true ∧
        ∃ kept, Filter.sample [interruptedRecords] (shareOf (.int 1)) = .finish (.ok kept) ∧
          (recordsOf (kept.play emptyStores ()).trace.items =
              recordsOf (interruptedRecords.stream.play emptyStores ()).trace.items ↔
            ∀ record ∈ recordsOf (interruptedRecords.stream.play emptyStores ()).trace.items,
              (Filter.hashOf 7820610836700094291 record).toNat < 2 ^ 64 - 1024) := by
  have hle : Filter.zero.isAtMost half = true := by decide
  have hzero : Filter.zero.equals Filter.zero = true :=
    Binary64.equals_self (Binary64.isNaN_ofInt 0)
  have hone : Filter.one.equals Filter.one = true := Binary64.equals_self (Binary64.isNaN_ofInt 1)
  obtain ⟨none, hnone, hempty⟩ := sample_nested samples_shareOf_zero interruptedRecords
  obtain ⟨all, hall, hcomplete⟩ := sample_nested samples_shareOf_one interruptedRecords
  obtain ⟨-, hnested, hnothing, -⟩ := hempty Unit emptyStores ()
  obtain ⟨wider, hwider, hrecords⟩ := hnested _ _ samples_shareOf_half hle
  exact ⟨⟨samples_shareOf_zero, samples_shareOf_half, hle, hzero, none, hnone, hnothing hzero,
      wider, hwider, hrecords⟩,
    samples_shareOf_one, hone, all, hall, (hcomplete Unit emptyStores ()).2.2.2 hone⟩

/-- A sample of everything may lack a record. -/
theorem not_sample_one_complete :
    ¬∀ (args : Arguments) seed (input : FileSet) kept, args.Samples Filter.one seed →
      Filter.sample [input] args = .finish (.ok kept) →
      ∀ (σ : Type) (stores : Stores σ) (state : σ),
        recordsOf (kept.play stores state).trace.items =
          recordsOf (input.stream.play stores state).trace.items := by
  intro h
  have hall := h _ _ interruptedRecords _ samples_shareOf_one
    (samples_shareOf_one.sample interruptedRecords) Unit emptyStores ()
  rw [Filter.recordsOf_inSample, List.filter_eq_self] at hall
  have hlast : Filter.inShare Filter.one
      (Filter.hashOf 7820610836700094291 { id := "a", space := "test", name := "a" }) = false := by
    decide +kernel
  have hkept := hall { id := "a", space := "test", name := "a" } List.mem_cons_self
  rw [hlast] at hkept
  cases hkept

end CatalogQuery
