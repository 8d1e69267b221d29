import Mathlib.Data.List.Basic

namespace AnneDeBreuil

/-- The symbols that a table's text is laid out with. -/
structure CsvDialect (α : Type) where
  delimiter : α
  quote : α
  lineFeed : α
  carriageReturn : α
  distinct : [delimiter, quote, lineFeed, carriageReturn].Nodup

inductive CsvPlace
  | record
  | field
  | bare
  | quoted
  | closing
deriving DecidableEq, Repr

/-- Where a reader stands, with what it has of the field and of the record. -/
structure CsvReader (α : Type) where
  place : CsvPlace
  field : List α
  fields : List (List α)

def CsvReader.start {α : Type} : CsvReader α := ⟨.record, [], []⟩

section

variable {α : Type} [DecidableEq α] (dialect : CsvDialect α)

def CsvDialect.ends (c : α) : Bool := c = dialect.lineFeed || c = dialect.carriageReturn

def CsvDialect.special (c : α) : Bool := c = dialect.delimiter || c = dialect.quote || dialect.ends c

def doubled (c : α) : List α := if c = dialect.quote then [c, c] else [c]

def quoteField (field : List α) : List α := dialect.quote :: field.flatMap (doubled dialect) ++ [dialect.quote]

/-- Quotes stand where they are needed. -/
def writeField (field : List α) : List α := if field.any dialect.special then quoteField dialect field else field

/-- A record that has no text is an empty field in quotes. -/
def writeRecord (fields : List (List α)) : List α :=
  let text := [dialect.delimiter].intercalate (fields.map (writeField dialect))
  (if text = [] then [dialect.quote, dialect.quote] else text) ++ [dialect.lineFeed]

/-- A symbol outside quotes, and the record that it ends. -/
def CsvReader.unquoted (reader : CsvReader α) (c : α) : CsvReader α × Option (List (List α)) :=
  if c = dialect.delimiter then (⟨.field, [], reader.fields ++ [reader.field]⟩, none)
  else if dialect.ends c then (.start, some (reader.fields ++ [reader.field]))
  else (⟨.bare, reader.field ++ [c], reader.fields⟩, none)

def CsvReader.step (reader : CsvReader α) (c : α) : CsvReader α × Option (List (List α)) :=
  match reader.place with
  | .record =>
    -- an empty line is no record
    if dialect.ends c then (reader, none)
    else if c = dialect.quote then ({ reader with place := .quoted }, none) else reader.unquoted dialect c
  | .field => if c = dialect.quote then ({ reader with place := .quoted }, none) else reader.unquoted dialect c
  | .bare => reader.unquoted dialect c
  | .quoted =>
    if c = dialect.quote then ({ reader with place := .closing }, none)
    else (⟨.quoted, reader.field ++ [c], reader.fields⟩, none)
  | .closing =>
    if c = dialect.quote then (⟨.quoted, reader.field ++ [c], reader.fields⟩, none) else reader.unquoted dialect c

/-- The records of a text. -/
def CsvReader.read (reader : CsvReader α) : List α → List (List (List α))
  | [] => if reader.place = .record then [] else [reader.fields ++ [reader.field]]
  | c :: cs =>
    match reader.step dialect c with
    | (next, some record) => record :: next.read cs
    | (next, none) => next.read cs

variable {dialect}

theorem delimiter_ends : dialect.ends dialect.delimiter = false := by
  have distinct := dialect.distinct
  simp only [List.nodup_cons, List.mem_cons, List.not_mem_nil, or_false, not_or] at distinct
  simp [CsvDialect.ends, distinct.1.2.1, distinct.1.2.2]

theorem quote_ends : dialect.ends dialect.quote = false := by
  have distinct := dialect.distinct
  simp only [List.nodup_cons, List.mem_cons, List.not_mem_nil, or_false, not_or] at distinct
  simp [CsvDialect.ends, distinct.2.1.1, distinct.2.1.2]

theorem lineFeed_ends : dialect.ends dialect.lineFeed = true := by simp [CsvDialect.ends]

omit [DecidableEq α] in
theorem delimiter_ne_quote : dialect.delimiter ≠ dialect.quote := by
  have distinct := dialect.distinct
  simp only [List.nodup_cons, List.mem_cons, List.not_mem_nil, or_false, not_or] at distinct
  exact distinct.1.1

theorem ne_of_ends {c d : α} (hc : dialect.ends c = true) (hd : dialect.ends d = false) : c ≠ d := by
  rintro rfl
  simp [hc] at hd

theorem not_special {c : α} (h : dialect.special c = false) :
    c ≠ dialect.delimiter ∧ c ≠ dialect.quote ∧ dialect.ends c = false := by
  simp only [CsvDialect.special, Bool.or_eq_false_iff, decide_eq_false_iff_not] at h
  exact ⟨h.1.1, h.1.2, h.2⟩

/-- Between quotes every symbol is the field's, a quote being written twice. -/
theorem read_quoted (field acc : List α) (fields : List (List α)) (rest : List α) :
    (CsvReader.mk .quoted acc fields).read dialect (field.flatMap (doubled dialect) ++ rest) =
      (CsvReader.mk .quoted (acc ++ field) fields).read dialect rest := by
  induction field generalizing acc with
  | nil => rw [List.flatMap_nil, List.nil_append, List.append_nil]
  | cons c field ih =>
    have later := ih (acc ++ [c])
    rw [List.append_assoc, List.singleton_append] at later
    rw [List.flatMap_cons, List.append_assoc, ← later]
    by_cases hquote : c = dialect.quote
    · simp [doubled, hquote, CsvReader.read, CsvReader.step]
    · simp [doubled, hquote, CsvReader.read, CsvReader.step]

theorem read_bare {field : List α} (plain : field.any dialect.special = false) (acc : List α) (fields : List (List α))
    (rest : List α) : (CsvReader.mk .bare acc fields).read dialect (field ++ rest) =
      (CsvReader.mk .bare (acc ++ field) fields).read dialect rest := by
  induction field generalizing acc with
  | nil => rw [List.nil_append, List.append_nil]
  | cons c field ih =>
    rw [List.any_cons, Bool.or_eq_false_iff] at plain
    obtain ⟨hdelimiter, -, hends⟩ := not_special plain.1
    have later := ih plain.2 (acc ++ [c])
    rw [List.append_assoc, List.singleton_append] at later
    rw [List.cons_append, ← later]
    simp [CsvReader.read, CsvReader.step, CsvReader.unquoted, hdelimiter, hends]

/-- A place where a field may end. -/
def CsvPlace.open : CsvPlace → Bool
  | .field | .bare | .closing => true
  | .record | .quoted => false

/-- A written field is read as itself, up to where it may end. -/
theorem read_writeField (field : List α) (fields : List (List α)) : ∃ place : CsvPlace, place.open = true ∧
    ∀ c rest, c ≠ dialect.quote → (CsvReader.mk .field [] fields).read dialect (writeField dialect field ++ c :: rest) =
      (CsvReader.mk place field fields).read dialect (c :: rest) := by
  unfold writeField
  cases hspecial : field.any dialect.special with
  | true =>
    refine ⟨.closing, rfl, fun c rest hc => ?_⟩
    rw [if_pos rfl, quoteField, List.cons_append, List.cons_append, List.append_assoc, List.singleton_append]
    simp only [CsvReader.read, CsvReader.step, if_true]
    rw [read_quoted, List.nil_append]
    simp [CsvReader.read, CsvReader.step]
  | false =>
    rw [if_neg nofun]
    cases field with
    | nil => exact ⟨.field, rfl, fun c rest hc => by rw [List.nil_append]⟩
    | cons first field =>
      rw [List.any_cons, Bool.or_eq_false_iff] at hspecial
      obtain ⟨hdelimiter, hquote, hends⟩ := not_special hspecial.1
      refine ⟨.bare, rfl, fun c rest hc => ?_⟩
      have later := read_bare hspecial.2 [first] fields (c :: rest)
      rw [List.singleton_append] at later
      rw [← later, List.cons_append]
      simp [CsvReader.read, CsvReader.step, CsvReader.unquoted, hdelimiter, hquote, hends]

theorem read_open {place : CsvPlace} (h : place.open = true) {c : α} (hc : c ≠ dialect.quote) (field : List α)
    (fields : List (List α)) :
    (CsvReader.mk place field fields).step dialect c = (CsvReader.mk place field fields).unquoted dialect c := by
  cases place with
  | record => cases h
  | field => simp [CsvReader.step, hc]
  | bare => rfl
  | quoted => cases h
  | closing => simp [CsvReader.step, hc]

theorem read_delimited (field : List α) (fields : List (List α)) (rest : List α) :
    (CsvReader.mk .field [] fields).read dialect (writeField dialect field ++ dialect.delimiter :: rest) =
      (CsvReader.mk .field [] (fields ++ [field])).read dialect rest := by
  obtain ⟨place, hopen, read⟩ := @read_writeField α _ dialect field fields
  rw [read _ _ delimiter_ne_quote, CsvReader.read, read_open hopen delimiter_ne_quote]
  simp [CsvReader.unquoted]

theorem read_ended (field : List α) (fields : List (List α)) (rest : List α) :
    (CsvReader.mk .field [] fields).read dialect (writeField dialect field ++ dialect.lineFeed :: rest) =
      (fields ++ [field]) :: CsvReader.start.read dialect rest := by
  obtain ⟨place, hopen, read⟩ := @read_writeField α _ dialect field fields
  have hquote : dialect.lineFeed ≠ dialect.quote := ne_of_ends lineFeed_ends quote_ends
  have hdelimiter : dialect.lineFeed ≠ dialect.delimiter := ne_of_ends lineFeed_ends delimiter_ends
  rw [read _ _ hquote, CsvReader.read, read_open hopen hquote]
  simp [CsvReader.unquoted, hdelimiter, lineFeed_ends]

/-- The fields of a line are read in order behind those read already. -/
theorem read_fields (field : List α) (more fields : List (List α)) (rest : List α) :
    (CsvReader.mk .field [] fields).read dialect
        ([dialect.delimiter].intercalate ((field :: more).map (writeField dialect)) ++ dialect.lineFeed :: rest) =
      (fields ++ field :: more) :: CsvReader.start.read dialect rest := by
  induction more generalizing field fields with
  | nil => simpa [List.intercalate] using read_ended field fields rest
  | cons next more ih =>
    have split : [dialect.delimiter].intercalate ((field :: next :: more).map (writeField dialect)) ++ dialect.lineFeed :: rest =
        writeField dialect field ++ dialect.delimiter ::
          ([dialect.delimiter].intercalate ((next :: more).map (writeField dialect)) ++ dialect.lineFeed :: rest) := by
      simp [List.intercalate]
    rw [split, read_delimited, ih, List.append_assoc, List.singleton_append]

/-- A line that does not begin with its end is read like what follows a delimiter. -/
theorem read_line {text : List α} (nonempty : text ≠ []) (begins : ∀ c ∈ text.head?, dialect.ends c = false) :
    CsvReader.start.read dialect text = (CsvReader.mk .field [] []).read dialect text := by
  cases text with
  | nil => exact absurd rfl nonempty
  | cons c text =>
    have first : dialect.ends c = false := begins c rfl
    simp [CsvReader.read, CsvReader.step, CsvReader.start, CsvReader.unquoted, first]

theorem writeField_head (field : List α) : ∀ c ∈ (writeField dialect field).head?, dialect.ends c = false := by
  unfold writeField
  cases hspecial : field.any dialect.special with
  | true =>
    intro c hc
    rw [if_pos rfl, quoteField, List.cons_append, List.head?_cons, Option.mem_def, Option.some.injEq] at hc
    rw [← hc]
    exact quote_ends
  | false =>
    rw [if_neg nofun]
    intro c hc
    have plain := List.any_eq_false.mp hspecial c (List.mem_of_mem_head? hc)
    exact (not_special (by simpa using plain)).2.2

theorem fields_head (field : List α) (more : List (List α)) :
    ∀ c ∈ ([dialect.delimiter].intercalate ((field :: more).map (writeField dialect))).head?, dialect.ends c = false := by
  cases more with
  | nil => simpa [List.intercalate] using writeField_head field
  | cons next more =>
    have split : [dialect.delimiter].intercalate ((field :: next :: more).map (writeField dialect)) =
        writeField dialect field ++ dialect.delimiter ::
          [dialect.delimiter].intercalate ((next :: more).map (writeField dialect)) := by
      simp [List.intercalate]
    rw [split]
    intro c hc
    cases hfield : writeField dialect field with
    | nil =>
      rw [hfield, List.nil_append, List.head?_cons, Option.mem_def, Option.some.injEq] at hc
      rw [← hc]
      exact delimiter_ends
    | cons first others =>
      rw [hfield, List.cons_append, List.head?_cons] at hc
      exact writeField_head field c (by rw [hfield]; exact hc)

theorem intercalate_eq_nil {field : List α} {more : List (List α)}
    (h : [dialect.delimiter].intercalate ((field :: more).map (writeField dialect)) = []) : field = [] ∧ more = [] := by
  cases more with
  | nil =>
    have alone : writeField dialect field = [] := by simpa [List.intercalate] using h
    unfold writeField at alone
    split at alone
    next => cases alone
    next => exact ⟨alone, rfl⟩
  | cons next more => simp [List.intercalate] at h

/-- A record that has a field is read back, and what follows it after it. -/
theorem read_writeRecord {record : List (List α)} (nonempty : record ≠ []) (rest : List α) :
    CsvReader.start.read dialect (writeRecord dialect record ++ rest) = record :: CsvReader.start.read dialect rest := by
  obtain ⟨field, more, rfl⟩ := List.exists_cons_of_ne_nil nonempty
  unfold writeRecord
  dsimp only
  rw [List.append_assoc, List.singleton_append]
  split
  next blank =>
    obtain ⟨rfl, rfl⟩ := intercalate_eq_nil blank
    have hquote : dialect.lineFeed ≠ dialect.quote := ne_of_ends lineFeed_ends quote_ends
    have hdelimiter : dialect.lineFeed ≠ dialect.delimiter := ne_of_ends lineFeed_ends delimiter_ends
    simp [CsvReader.read, CsvReader.step, CsvReader.unquoted, CsvReader.start, quote_ends, hquote, hdelimiter,
      lineFeed_ends]
  next filled =>
    have begins : ∀ c ∈ ([dialect.delimiter].intercalate ((field :: more).map (writeField dialect)) ++
        dialect.lineFeed :: rest).head?, dialect.ends c = false := by
      intro c hc
      rw [List.head?_append_of_ne_nil _ filled] at hc
      exact fields_head field more c hc
    rw [read_line (by simp) begins, read_fields, List.nil_append]

/-- A table's text is read back as the table. -/
theorem read_writeRecords {records : List (List (List α))} (nonempty : ∀ record ∈ records, record ≠ []) :
    CsvReader.start.read dialect (records.flatMap (writeRecord dialect)) = records := by
  induction records with
  | nil => rfl
  | cons record records ih =>
    rw [List.forall_mem_cons] at nonempty
    rw [List.flatMap_cons, read_writeRecord nonempty.1, ih nonempty.2]

end

end AnneDeBreuil
