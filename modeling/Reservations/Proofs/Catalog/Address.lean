import Mathlib.Data.List.TakeWhile
import Reservations.Catalog.Http
import Reservations.Proofs.Ulid.Notations

namespace Reservations.Catalog

/-! ## The end of an address -/

/-- What stands behind the last slash of a text. -/
def behindSlashes (text : String) : String :=
  String.ofList (text.toList.reverse.takeWhile (· ≠ '/')).reverse

theorem behindSlashes_append (front : List Char) {tail : List Char} (last : '/' ∉ tail) :
    behindSlashes (String.ofList (front ++ '/' :: tail)) = String.ofList tail := by
  have solid : ∀ c ∈ tail.reverse, decide (c ≠ '/') = true := by
    intro c member
    rw [decide_eq_true_iff]
    rintro rfl
    exact last (List.mem_reverse.mp member)
  rw [behindSlashes, String.toList_ofList, List.reverse_append, List.reverse_cons,
    List.append_assoc, List.takeWhile_append_of_pos solid, List.singleton_append,
    List.takeWhile_cons_of_neg (by decide), List.append_nil, List.reverse_reverse]

/-! ### Characters -/

/-- What may stand anywhere behind the host of an address as it is, and ends no part of it. -/
def isUnreserved (c : Char) : Bool :=
  !isPassedOver c && !"#?\\%.".toList.contains c && isPlain barredFromPath c &&
    isPlain barredFromQuery c

theorem isUnreserved_of_mem_toUuid {id : Ulid} {c : Char} (member : c ∈ id.toUuid.toList) :
    isUnreserved c = true ∧ c ≠ '/' := by
  have all : Ulid.uuidAlphabet.all (fun c => isUnreserved c && c ≠ '/') = true := by decide
  have here := List.all_eq_true.mp all c (Ulid.mem_uuidAlphabet_of_mem_toUuid member)
  rwa [Bool.and_eq_true, decide_eq_true_iff] at here

theorem slash_not_mem_toUuid (id : Ulid) : '/' ∉ id.toUuid.toList :=
  fun member => (isUnreserved_of_mem_toUuid member).2 rfl

/-- What is put behind the base. -/
def resourcePath (id : Ulid) : List Char :=
  "/api/resources/".toList ++ id.toUuid.toList

theorem isUnreserved_of_mem_resourcePath {id : Ulid} {c : Char} (member : c ∈ resourcePath id) :
    isUnreserved c = true := by
  rcases List.mem_append.mp member with fixed | named
  · have all : "/api/resources/".toList.all isUnreserved = true := by decide
    exact List.all_eq_true.mp all c fixed
  · exact (isUnreserved_of_mem_toUuid named).1

theorem toList_resourceAddress (base : String) (id : Ulid) :
    (resourceAddress base id).toList = dropSlashes base.toList ++ resourcePath id := by
  have front : (String.ofList (dropSlashes base.toList)).toList = dropSlashes base.toList :=
    String.toList_ofList
  unfold resourceAddress resourcePath
  -- Otherwise the digits of the identifier are computed.
  generalize id.toUuid = named
  rw [String.toList_append, String.toList_append, front, List.append_assoc]

section Unreserved

variable {cs : List Char} (unreserved : ∀ c ∈ cs, isUnreserved c = true)
include unreserved

theorem encodeUnless_of_isUnreserved {barred : List Char}
    (known : barred = barredFromPath ∨ barred = barredFromQuery) : encodeUnless barred cs = cs := by
  induction cs with
  | nil => rfl
  | cons c cs inductionHypothesis =>
      rw [List.forall_mem_cons] at unreserved
      have plain : isPlain barred c = true := by
        have here := unreserved.1
        simp only [isUnreserved, Bool.and_eq_true] at here
        obtain ⟨⟨_, inPath⟩, inQuery⟩ := here
        rcases known with rfl | rfl
        · exact inPath
        · exact inQuery
      rw [encodeUnless, List.flatMap_cons, if_pos plain]
      exact congrArg (c :: ·) (inductionHypothesis unreserved.2)

theorem decodePoints_of_isUnreserved : decodePoints cs = cs := by
  induction cs with
  | nil => rfl
  | cons c cs inductionHypothesis =>
      rw [List.forall_mem_cons] at unreserved
      have noPercent : c ≠ '%' := by
        rintro rfl
        exact absurd unreserved.1 (by decide)
      rw [decodePoints, inductionHypothesis unreserved.2]
      all_goals exact fun _ same _ => noPercent same

theorem isPoints_of_isUnreserved (nonempty : cs ≠ []) (count : Nat) :
    isPoints count cs = false := by
  rw [isPoints, decodePoints_of_isUnreserved unreserved, decide_eq_false_iff_not]
  rintro rfl
  have point : '.' ∈ List.replicate count '.' :=
    List.mem_replicate.mpr ⟨fun none => nonempty (by rw [none, List.replicate_zero]), rfl⟩
  exact absurd (unreserved _ point) (by decide)

end Unreserved

/-! ### Paths -/

theorem segments_ne_nil (cs : List Char) : segments cs ≠ [] := by
  induction cs with
  | nil => exact List.cons_ne_nil _ _
  | cons c cs inductionHypothesis =>
      rw [segments]
      split
      · exact List.cons_ne_nil _ _
      · rwa [Ne, List.modifyHead_eq_nil_iff]

/-- A slash cuts a path in two. -/
theorem segments_append_slash (left right : List Char) :
    segments (left ++ '/' :: right) = segments left ++ segments right := by
  induction left with
  | nil => rfl
  | cons c left inductionHypothesis =>
      rw [List.cons_append, segments, segments, inductionHypothesis]
      split
      · rfl
      · obtain ⟨segment, rest, parts⟩ := List.exists_cons_of_ne_nil (segments_ne_nil left)
        rw [parts]
        rfl

theorem segments_of_solid {cs : List Char} (solid : ∀ c ∈ cs, c ≠ '/' ∧ c ≠ '\\') :
    segments cs = [cs] := by
  induction cs with
  | nil => rfl
  | cons c cs inductionHypothesis =>
      rw [List.forall_mem_cons] at solid
      rw [segments, if_neg (not_or.mpr solid.1), inductionHypothesis solid.2]
      rfl

/-- The segments of what is put behind the base. -/
def resourceSegments (id : Ulid) : List (List Char) :=
  ["api".toList, "resources".toList, id.toUuid.toList]

theorem segments_append_resourcePath (base : List Char) (id : Ulid) :
    segments (base ++ resourcePath id) = segments base ++ resourceSegments id := by
  have named : segments id.toUuid.toList = [id.toUuid.toList] := by
    refine segments_of_solid fun c member => ⟨(isUnreserved_of_mem_toUuid member).2, ?_⟩
    rintro rfl
    exact absurd (isUnreserved_of_mem_toUuid member).1 (by decide)
  have path : resourcePath id = '/' :: ("api".toList ++ '/' :: ("resources".toList ++
    '/' :: id.toUuid.toList)) := rfl
  rw [path, segments_append_slash, segments_append_slash, segments_append_slash, named]
  rfl

theorem toUuid_ne_nil (id : Ulid) : id.toUuid.toList ≠ [] := by
  rw [← List.length_pos_iff, id.length_toUuid]
  decide

theorem isPoints_of_mem_resourceSegments {id : Ulid} {segment : List Char}
    (member : segment ∈ resourceSegments id) (count : Nat) : isPoints count segment = false := by
  rw [resourceSegments, List.mem_cons, List.mem_cons, List.mem_singleton] at member
  rcases member with fixed | fixed | named
  · subst fixed
    exact isPoints_of_isUnreserved (List.all_eq_true.mp (by decide)) (by decide) count
  · subst fixed
    exact isPoints_of_isUnreserved (List.all_eq_true.mp (by decide)) (by decide) count
  · rw [named]
    exact isPoints_of_isUnreserved (fun c member => (isUnreserved_of_mem_toUuid member).1)
      (toUuid_ne_nil id) count

section Settle

variable {right : List (List Char)}
  (pointless : ∀ segment ∈ right, ∀ count, isPoints count segment = false)
include pointless

theorem settle_of_pointless (kept : List (List Char)) :
    settle kept right = kept.reverse ++ right := by
  induction right generalizing kept with
  | nil => rw [settle, List.append_nil]
  | cons segment right inductionHypothesis =>
      rw [List.forall_mem_cons] at pointless
      rw [settle, pointless.1 1, pointless.1 2, Bool.false_or, if_neg Bool.false_ne_true,
        inductionHypothesis pointless.2, List.reverse_cons, List.append_assoc,
        List.singleton_append]

/-- The segments that end a path stay, whatever stands before them, if none of them is
made of points. -/
theorem exists_settle_append (kept left : List (List Char)) :
    ∃ front, settle kept (left ++ right) = front ++ right := by
  induction left generalizing kept with
  | nil => exact ⟨kept.reverse, settle_of_pointless pointless kept⟩
  | cons segment left inductionHypothesis =>
      rw [List.cons_append, settle]
      split
      · exact inductionHypothesis _
      · exact inductionHypothesis _

end Settle

/-! ### What a request names -/

theorem encodeUnless_append (barred left right : List Char) :
    encodeUnless barred (left ++ right) = encodeUnless barred left ++ encodeUnless barred right :=
  List.flatMap_append

/-- Slashes between segments are slashes before each of them, save for the first. -/
theorem slash_intercalate {segments : List (List Char)} (nonempty : segments ≠ []) :
    '/' :: ['/'].intercalate segments = segments.flatMap ('/' :: ·) := by
  induction segments with
  | nil => exact absurd rfl nonempty
  | cons segment segments inductionHypothesis =>
      cases segments with
      | nil => simp [List.intercalate_singleton]
      | cons next segments =>
          rw [List.intercalate_cons_cons, List.append_assoc, List.singleton_append,
            inductionHypothesis (List.cons_ne_nil _ _)]
          rfl

theorem flatMap_resourceSegments (id : Ulid) :
    ((resourceSegments id).map (encodeUnless barredFromPath)).flatMap ('/' :: ·) =
      resourcePath id := by
  have named : encodeUnless barredFromPath id.toUuid.toList = id.toUuid.toList :=
    encodeUnless_of_isUnreserved (fun c member => (isUnreserved_of_mem_toUuid member).1)
      (Or.inl rfl)
  have fixed : ["api".toList, "resources".toList].map (encodeUnless barredFromPath) =
      ["api".toList, "resources".toList] := by decide
  unfold resourceSegments resourcePath
  generalize id.toUuid.toList = cs at named ⊢
  calc
    (["api".toList, "resources".toList, cs].map (encodeUnless barredFromPath)).flatMap ('/' :: ·)
      = ((["api".toList, "resources".toList].map (encodeUnless barredFromPath)).flatMap
          ('/' :: ·)) ++ '/' :: encodeUnless barredFromPath cs := by simp
    _ = "/api/resources/".toList ++ cs := by
      rw [fixed, named]
      rfl

section Target

variable {base path : List Char} (solid : ∀ c ∈ path, isUnreserved c = true)
include solid

/-- As long as nothing cuts it off as a fragment, all of a path is part of what is named. -/
theorem named_append (whole : '#' ∉ base) :
    ((base ++ path).filter (!isPassedOver ·)).takeWhile (· ≠ '#') =
      base.filter (!isPassedOver ·) ++ path := by
  have kept : path.filter (!isPassedOver ·) = path := by
    refine List.filter_eq_self.mpr fun c member => ?_
    have unreserved := solid c member
    simp only [isUnreserved, Bool.and_eq_true] at unreserved
    obtain ⟨⟨⟨kept, _⟩, _⟩, _⟩ := unreserved
    exact kept
  rw [List.filter_append, kept]
  refine List.takeWhile_eq_self_iff.mpr fun c member => ?_
  rw [decide_eq_true_iff]
  rintro rfl
  rcases List.mem_append.mp member with before | behind
  · exact whole (List.mem_filter.mp before).1
  · exact absurd (solid _ behind) (by decide)

theorem question_not_mem : '?' ∉ path :=
  fun member => absurd (solid _ member) (by decide)

end Target

/-- As long as nothing cuts it off as a fragment, what is put behind the base ends what the
request names, be it as the end of the path or of a query. -/
theorem exists_requestTarget_append {base : List Char} (whole : '#' ∉ base) (id : Ulid) :
    ∃ front, requestTarget (base ++ resourcePath id) = front ++ resourcePath id := by
  have solid : ∀ c ∈ resourcePath id, isUnreserved c = true :=
    fun c => isUnreserved_of_mem_resourcePath
  have encoded : encodeUnless barredFromQuery (resourcePath id) = resourcePath id :=
    encodeUnless_of_isUnreserved solid (Or.inr rfl)
  have segmented := segments_append_resourcePath (base.filter (!isPassedOver ·)) id
  have joined := flatMap_resourceSegments id
  have pointless : ∀ segment ∈ resourceSegments id, ∀ count, isPoints count segment = false :=
    fun _ => isPoints_of_mem_resourceSegments
  rw [requestTarget, named_append solid whole]
  generalize resourcePath id = path at solid segmented encoded joined ⊢
  generalize base.filter (!isPassedOver ·) = before at segmented ⊢
  by_cases query : '?' ∈ before
  · have started : before.dropWhile (· ≠ '?') ≠ [] := by
      intro none
      have all := List.dropWhile_eq_nil_iff.mp none '?' query
      exact absurd all (by decide)
    rw [List.dropWhile_append, if_neg (by rwa [List.isEmpty_iff]), encodeUnless_append, encoded]
    exact ⟨_, (List.append_assoc _ _ _).symm⟩
  · have plain : ∀ c ∈ before ++ path, decide (c ≠ '?') = true := by
      intro c member
      rw [decide_eq_true_iff]
      rintro rfl
      exact (List.mem_append.mp member).elim query (question_not_mem solid)
    obtain ⟨front, settled⟩ := exists_settle_append pointless [] (segments before).tail
    have some : (front ++ resourceSegments id).map (encodeUnless barredFromPath) ≠ [] := by
      simp [resourceSegments]
    rw [List.takeWhile_eq_self_iff.mpr plain, List.dropWhile_eq_nil_iff.mpr plain, segmented,
      List.tail_append_of_ne_nil (segments_ne_nil before), settled, slash_intercalate some,
      List.map_append, List.flatMap_append, joined, List.append_assoc]
    exact ⟨_, congrArg _ (List.append_nil _)⟩

/-! ### Identifiers in addresses -/

theorem behindSlashes_resourcePath (front : List Char) (id : Ulid) :
    behindSlashes (String.ofList (front ++ resourcePath id)) = id.toUuid := by
  have path : resourcePath id = "/api/resources".toList ++ '/' :: id.toUuid.toList := rfl
  rw [path, ← List.append_assoc, behindSlashes_append _ (slash_not_mem_toUuid id),
    String.ofList_toList]

theorem behindSlashes_resourceAddress (base : String) (id : Ulid) :
    behindSlashes (resourceAddress base id) = id.toUuid := by
  rw [← String.ofList_toList (s := resourceAddress base id), toList_resourceAddress,
    behindSlashes_resourcePath]

theorem behindSlashes_resourceTarget {base : String} (whole : '#' ∉ base.toList) (id : Ulid) :
    behindSlashes (resourceTarget base id) = id.toUuid := by
  have dropped : '#' ∉ dropSlashes base.toList := by
    intro member
    have kept := (List.dropWhile_sublist _).subset (List.mem_reverse.mp member)
    exact whole (List.mem_reverse.mp kept)
  obtain ⟨front, target⟩ := exists_requestTarget_append dropped id
  rw [resourceTarget, toList_resourceAddress, target, behindSlashes_resourcePath]

theorem resourceTarget_of_requestLine {base : String} {left right : Ulid}
    (same : requestLine base left = requestLine base right) :
    resourceTarget base left = resourceTarget base right := by
  change "GET " ++ resourceTarget base left ++ " HTTP/1.1" =
    "GET " ++ resourceTarget base right ++ " HTTP/1.1" at same
  rwa [String.append_left_inj, String.append_right_inj] at same

end Reservations.Catalog

namespace Reservations

open Catalog

/-- An identifier means the same in every notation: it is read from either of its texts
whatever the case of the letters, no text is read in both notations, and what the catalog is
asked for ends with a text that is read as the identifier. So no two resources have one
address, and none are asked for in one request, unless the base has a fragment, which no
request names. -/
theorem Ulid.notations_agree :
    (∀ (id : Ulid) (text : String),
      text.toList.map Char.toLower = id.toText.toList.map Char.toLower ∨
        text.toList.map Char.toLower = id.toUuid.toList.map Char.toLower →
      ofText? text = some id) ∧
    (∀ text : String, ofCrockford? text.toList = none ∨ ofUuid? text.toList = none) ∧
    (∀ base id, ofText? (behindSlashes (resourceAddress base id)) = some id) ∧
    (∀ leftBase rightBase left right,
      resourceAddress leftBase left = resourceAddress rightBase right → left = right) ∧
    (∀ base, '#' ∉ base.toList →
      (∀ id, ofText? (behindSlashes (resourceTarget base id)) = some id) ∧
      (∀ left right, requestLine base left = requestLine base right → left = right)) := by
  have address (base : String) (id : Ulid) :
      ofText? (behindSlashes (resourceAddress base id)) = some id := by
    rw [behindSlashes_resourceAddress, ofText?_toUuid]
  have target {base : String} (whole : '#' ∉ base.toList) (id : Ulid) :
      ofText? (behindSlashes (resourceTarget base id)) = some id := by
    rw [behindSlashes_resourceTarget whole, ofText?_toUuid]
  refine ⟨?_, fun text => ofCrockford?_or_ofUuid?_eq_none _, address, ?_, ?_⟩
  · rintro id text (crockford | hyphenated)
    · rw [ofText?_eq_of_toLower crockford, ofText?_toText]
    · rw [ofText?_eq_of_toLower hyphenated, ofText?_toUuid]
  · intro leftBase rightBase left right same
    exact Option.some_inj.mp (by rw [← address leftBase left, same, address])
  · refine fun base whole => ⟨target whole, fun left right same => ?_⟩
    exact Option.some_inj.mp
      (by rw [← target whole left, resourceTarget_of_requestLine same, target whole])

/-- Two resources of one catalog, and an identifier in letters of either case. -/
theorem Ulid.notations_agree_lowerCase :
    ofText? "0000000000000000000000000z" = some (ofNat 31) ∧
      ofText? "00000000-0000-0000-0000-00000000001F" = some (ofNat 31) ∧
      requestLine "/v1?key=a" (ofNat 1) ≠ requestLine "/v1?key=a" (ofNat 2) := by
  obtain ⟨reads, _, _, _, apart⟩ := notations_agree
  refine ⟨reads (ofNat 31) _ (Or.inl ?_), reads (ofNat 31) _ (Or.inr ?_), fun same => ?_⟩
  · decide
  · decide
  · have equal := (apart "/v1?key=a" (by decide)).2 _ _ same
    exact absurd equal (by decide)

end Reservations
