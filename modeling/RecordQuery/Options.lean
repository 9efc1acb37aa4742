/-!
# Options and pages

Options are the settings that hold for all queries.  `Options.window` turns a requested page into
the number of records to skip and the number to take, all in words of 64 bits: the product of pages
and page size is held to the largest word.
-/

namespace RecordQuery

/-- Settings shared by all queries. -/
structure Options where
  /-- The page size when a query asks for none, or for one that is not positive. -/
  defaultPageSize : UInt32 := 10
  /-- The bound on all page sizes. -/
  maxPageSize : UInt32 := 50
  /-- The language of full-text searches on fields without one of their own. -/
  defaultVectorLanguage : String := "english"
  /-- Report descriptors that fail to compile instead of skipping them. -/
  throwOnInvalidFields : Bool := false
deriving DecidableEq

namespace Options

/-- The number of the requested page.  Pages count from one, and there are none before the first. -/
def pageNumber (page : Option Int64) : Int64 := max (page.getD 1) 1

/-- The size that is requested, or the default when none is or one that is not positive. -/
def sizeOrDefault (options : Options) : Option Int64 → Int64
  | some n => if 0 < n then n else options.defaultPageSize.toUInt64.toInt64
  | none => options.defaultPageSize.toUInt64.toInt64

/-- The size of pages when the given size is requested. -/
def pageSize (options : Options) (requested : Option Int64) : Int64 :=
  max (min (options.sizeOrDefault requested) options.maxPageSize.toUInt64.toInt64) 0

/-- A number of pages or records as a count; what is no count becomes the largest one. -/
def countOf (n : Int64) : UInt64 :=
  if 0 ≤ n then n.toUInt64 else UInt64.ofNatClamp UInt64.size

/-- How many records to skip, at most the largest count, and how many to take. -/
def window (options : Options) (page size : Option Int64) : UInt64 × UInt64 :=
  let take := countOf (options.pageSize size)
  let pages := countOf (pageNumber page - 1)
  (UInt64.ofNatClamp (pages.toNat * take.toNat), take)

/-- Cuts one page out of a list. -/
def paginate {α : Type} (options : Options) (page size : Option Int64) (items : List α) : List α :=
  let (skip, take) := options.window page size
  (items.drop skip.toNat).take take.toNat

end Options

end RecordQuery
