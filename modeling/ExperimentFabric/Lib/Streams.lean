import ExperimentFabric.Lib.Codec

/-!
# Unique readability

Bytes that are fed to a hasher are never read back, so there is no reader to state a codec law with.
`Determines` says what the law would give: the bytes of known values, whatever follows them, determine
a view of the value and what follows.  The rules go by the shape of a writer: a word, a text after its
length, an optional value, the fields of a record, a counted sequence.  A codec law gives the property
for its writer.
-/

namespace Lib

variable {ε α β γ δ : Type}

/-- The bytes written for known values determine a view of the value and the bytes that follow. -/
def Determines (known : α → Prop) (write : α → List UInt8) (view : α → β) : Prop :=
  ∀ left right leftRest rightRest, known left → known right →
    write left ++ leftRest = write right ++ rightRest →
      view left = view right ∧ leftRest = rightRest

namespace Determines

variable {known : α → Prop} {write : α → List UInt8} {view : α → β}

/-- What a reader gives back is determined. -/
theorem of_codes {read : Reader ε α} (law : Codes known read write) : Determines known write id := by
  intro left right leftRest rightRest leftKnown rightKnown same
  have here := law.read_write leftKnown leftRest
  rw [same, law.read_write rightKnown rightRest] at here
  simp only [Except.ok.injEq, Prod.mk.injEq] at here
  exact ⟨here.1.symm, here.2.symm⟩

/-- Values that are written alike are viewed alike. -/
theorem view_eq (law : Determines known write view) {left right : α} (leftKnown : known left)
    (rightKnown : known right) (same : write left = write right) : view left = view right :=
  (law left right [] [] leftKnown rightKnown (by rw [same])).1

/-- A coarser view of fewer values. -/
theorem weaken {fewer : α → Prop} {coarser : α → γ} (law : Determines known write view)
    (fit : ∀ value, fewer value → known value)
    (covers : ∀ left right, fewer left → fewer right → view left = view right →
      coarser left = coarser right) : Determines fewer write coarser := by
  intro left right leftRest rightRest leftKnown rightKnown same
  obtain ⟨viewed, rest⟩ := law left right leftRest rightRest (fit _ leftKnown) (fit _ rightKnown) same
  exact ⟨covers left right leftKnown rightKnown viewed, rest⟩

/-- A view of the fields of a record is a view of the record. -/
theorem record {whole : α → γ} (law : Determines known write view)
    (covers : ∀ left right, view left = view right → whole left = whole right) :
    Determines known write whole :=
  law.weaken (fun _ here => here) fun left right _ _ => covers left right

/-- A part of a value is written instead. -/
theorem comap (part : γ → α) (law : Determines known write view) :
    Determines (fun whole => known (part whole)) (fun whole => write (part whole))
      fun whole => view (part whole) :=
  fun left right => law (part left) (part right)

/-- Nothing is written. -/
theorem nil : Determines known (fun _ => []) fun _ => () :=
  fun _ _ _ _ _ _ same => ⟨rfl, same⟩

/-- The same bytes are written for every value. -/
theorem constant (bytes : List UInt8) : Determines known (fun _ => bytes) fun _ => () :=
  fun _ _ _ _ _ _ same => ⟨rfl, List.append_cancel_left same⟩

/-- A number of bytes that does not depend on the value. -/
theorem fixed {width : Nat} (sized : ∀ value, known value → (write value).length = width)
    (separated : ∀ left right, known left → known right → write left = write right →
      view left = view right) : Determines known write view := by
  intro left right leftRest rightRest leftKnown rightKnown same
  obtain ⟨bytes, rest⟩ := List.append_inj same
    ((sized left leftKnown).trans (sized right rightKnown).symm)
  exact ⟨separated left right leftKnown rightKnown bytes, rest⟩

/-- Two writers, one after the other. -/
theorem append {writeNext : α → List UInt8} {viewNext : α → γ} (law : Determines known write view)
    (next : Determines known writeNext viewNext) :
    Determines known (fun value => write value ++ writeNext value)
      fun value => (view value, viewNext value) := by
  intro left right leftRest rightRest leftKnown rightKnown same
  rw [List.append_assoc, List.append_assoc] at same
  obtain ⟨viewed, later⟩ := law left right _ _ leftKnown rightKnown same
  obtain ⟨viewedNext, rest⟩ := next left right _ _ leftKnown rightKnown later
  exact ⟨Prod.ext viewed viewedNext, rest⟩

/-! ### Records -/

/-- A field of a record, then the others. -/
theorem field {fits : γ → Prop} {writeField : γ → List UInt8} {seen : γ → δ} {part : α → γ}
    {pieces : α → List (List UInt8)} (law : Determines fits writeField seen)
    (fit : ∀ value, known value → fits (part value))
    (others : Determines known (fun value => (pieces value).flatten) view) :
    Determines known (fun value => (writeField (part value) :: pieces value).flatten)
      fun value => (seen (part value), view value) :=
  append ((law.comap part).weaken fit fun _ _ _ _ same => same) others

/-- A field with the same bytes for every record, then the others. -/
theorem mark {bytes : List UInt8} {pieces : α → List (List UInt8)}
    (others : Determines known (fun value => (pieces value).flatten) view) :
    Determines known (fun value => (bytes :: pieces value).flatten) view :=
  ((constant bytes).append others).record fun _ _ same => (Prod.mk.inj same).2

/-- The end of a record. -/
theorem done : Determines known (fun _ => ([] : List (List UInt8)).flatten) fun _ => () := nil

/-! ### Sequences -/

/-- A number of values, one after another. -/
theorem items (law : Determines known write view) {left right : List α} {leftRest rightRest : List UInt8}
    (leftKnown : ∀ value ∈ left, known value) (rightKnown : ∀ value ∈ right, known value)
    (length : left.length = right.length)
    (same : (left.map write).flatten ++ leftRest = (right.map write).flatten ++ rightRest) :
    left.map view = right.map view ∧ leftRest = rightRest := by
  induction left generalizing right with
  | nil =>
      obtain rfl : right = [] := List.length_eq_zero_iff.mp length.symm
      exact ⟨rfl, same⟩
  | cons value others ih =>
      cases right with
      | nil => cases length
      | cons value' others' =>
          simp only [List.map_cons, List.flatten_cons, List.append_assoc] at same
          obtain ⟨viewed, later⟩ := law _ _ _ _ (leftKnown value List.mem_cons_self)
            (rightKnown value' List.mem_cons_self) same
          obtain ⟨rest, after⟩ := ih
            (fun other member => leftKnown other (List.mem_cons_of_mem _ member))
            (fun other member => rightKnown other (List.mem_cons_of_mem _ member))
            (Nat.succ.inj length) later
          exact ⟨by rw [List.map_cons, List.map_cons, viewed, rest], after⟩

/-- A sequence after its length. -/
theorem counted {width : Nat} (law : Determines known write view) :
    Determines (fun values => values.length < 256 ^ width ∧ ∀ value ∈ values, known value)
      (fun values => leBytes width values.length ++ (values.map write).flatten)
      (List.map view) := by
  rintro left right leftRest rightRest ⟨leftShort, leftKnown⟩ ⟨rightShort, rightKnown⟩ same
  rw [List.append_assoc, List.append_assoc] at same
  have words : Determines (· < 256 ^ width) (leBytes width) id :=
    of_codes (Codes.readWord () width)
  obtain ⟨length, later⟩ := words _ _ _ _ leftShort rightShort same
  exact law.items leftKnown rightKnown length later

/-- Bytes after their length. -/
theorem sized {width : Nat} :
    Determines (fun bytes => bytes.length < 256 ^ width)
      (fun bytes : List UInt8 => leBytes width bytes.length ++ bytes) id := by
  intro left right leftRest rightRest leftShort rightShort same
  rw [List.append_assoc, List.append_assoc] at same
  have words : Determines (· < 256 ^ width) (leBytes width) id :=
    of_codes (Codes.readWord () width)
  obtain ⟨length, later⟩ := words _ _ _ _ leftShort rightShort same
  exact List.append_inj later length

/-! ### Runs of marked items -/

/-- Items that all show a mark at one place, followed by bytes that do not show it there: the bytes
determine where the run ends. -/
theorem run (law : Determines known write view) (mark : List UInt8 → Bool)
    (marked : ∀ value rest, known value → mark (write value ++ rest) = true) {left right : List α}
    {leftRest rightRest : List UInt8} (leftKnown : ∀ value ∈ left, known value)
    (rightKnown : ∀ value ∈ right, known value) (leftEnds : mark leftRest = false)
    (rightEnds : mark rightRest = false)
    (same : (left.map write).flatten ++ leftRest = (right.map write).flatten ++ rightRest) :
    left.map view = right.map view ∧ leftRest = rightRest := by
  induction left generalizing right with
  | nil =>
      cases right with
      | nil => exact ⟨rfl, same⟩
      | cons value others =>
          simp only [List.map_nil, List.flatten_nil, List.nil_append, List.map_cons,
            List.flatten_cons, List.append_assoc] at same
          rw [same, marked value _ (rightKnown value List.mem_cons_self)] at leftEnds
          cases leftEnds
  | cons value others ih =>
      cases right with
      | nil =>
          simp only [List.map_nil, List.flatten_nil, List.nil_append, List.map_cons,
            List.flatten_cons, List.append_assoc] at same
          rw [← same, marked value _ (leftKnown value List.mem_cons_self)] at rightEnds
          cases rightEnds
      | cons value' others' =>
          simp only [List.map_cons, List.flatten_cons, List.append_assoc] at same
          obtain ⟨viewed, later⟩ := law _ _ _ _ (leftKnown value List.mem_cons_self)
            (rightKnown value' List.mem_cons_self) same
          obtain ⟨rest, after⟩ := ih
            (fun other member => leftKnown other (List.mem_cons_of_mem _ member))
            (fun other member => rightKnown other (List.mem_cons_of_mem _ member)) later
          exact ⟨by rw [List.map_cons, List.map_cons, viewed, rest], after⟩

/-- Items that do not show a mark, followed by bytes that do not show it. -/
theorem unmarked {mark : List UInt8 → Bool} (free : ∀ value rest, mark (write value ++ rest) = false)
    (values : List α) {rest : List UInt8} (restFree : mark rest = false) :
    mark ((values.map write).flatten ++ rest) = false := by
  cases values with
  | nil => exact restFree
  | cons value others =>
      rw [List.map_cons, List.flatten_cons, List.append_assoc]
      exact free value _

end Determines

end Lib
