import Linkcut.Exposition
import Linkcut.Proofs.Text.Decimal

/-!
Expositions as documents. A document is a list of lines, each of them a help, a type or a sample;
the text of an exposition is read line by line, and what was written comes back.
-/

set_option autoImplicit false

namespace Linkcut

namespace Text

/-- The text before the first mark, and the text after it. -/
def splitFirst (mark : Char) (cs : List Char) : Option (List Char × List Char) :=
  match cs.dropWhile (· != mark) with
  | [] => none
  | _ :: r => some (cs.takeWhile (· != mark), r)

/-- The text before the last mark, and the text after it. -/
def splitLast (mark : Char) (cs : List Char) : Option (List Char × List Char) :=
  (splitFirst mark cs.reverse).map fun p => (p.2.reverse, p.1.reverse)

theorem splitFirst_append {mark : Char} {n : List Char} (h : mark ∉ n) (r : List Char) :
    splitFirst mark (n ++ mark :: r) = some (n, r) := by
  have hall : ∀ c ∈ n, (c != mark) = true := fun c hc => by
    simpa using fun e : c = mark => h (e ▸ hc)
  simp [splitFirst, List.takeWhile_append_of_pos hall, List.dropWhile_append_of_pos hall]

theorem splitLast_append {mark : Char} {r : List Char} (h : mark ∉ r) (n : List Char) :
    splitLast mark (n ++ mark :: r) = some (n, r) := by
  have hback : (n ++ mark :: r).reverse = r.reverse ++ mark :: n.reverse := by simp
  rw [splitLast, hback, splitFirst_append (by simpa using h)]
  simp

/-- A mark after each text is a mark between each two of them, and an empty text at the end. -/
theorem intercalate_concat_nil (mark : List Char) (ts : List (List Char)) :
    mark.intercalate (ts ++ [[]]) = ts.flatMap fun t => t ++ mark := by
  induction ts with
  | nil => rfl
  | cons t ts ih =>
    rw [List.cons_append, List.intercalate_cons_of_ne_nil (by simp), ih, List.flatMap_cons]

theorem intercalate_append (mark : List Char) {ts : List (List Char)} (h : ts ≠ []) :
    mark.intercalate ts ++ mark = ts.flatMap fun t => t ++ mark := by
  induction ts with
  | nil => exact absurd rfl h
  | cons t ts ih =>
    cases ts with
    | nil => simp
    | cons u ts =>
      rw [List.intercalate_cons_cons, List.flatMap_cons, ← ih (by simp)]
      simp

end Text

namespace Exposition

inductive Line where
  | help (name text : String)
  | type (name text : String)
  /-- A name and its value. -/
  | sample (name : String) (value : Int)
  deriving DecidableEq, Repr

/-- A name has no blanks in it, and does not look like a comment. -/
def IsName (name : String) : Prop := ∀ c ∈ name.toList, c ≠ ' ' ∧ c ≠ '\n' ∧ c ≠ '#'

instance (name : String) : Decidable (IsName name) := List.decidableBAll _ _

namespace Line

def helpMark : List Char := ['#', ' ', 'H', 'E', 'L', 'P', ' ']
def typeMark : List Char := ['#', ' ', 'T', 'Y', 'P', 'E', ' ']

def write : Line → List Char
  | help n t => helpMark ++ (n.toList ++ ' ' :: t.toList)
  | type n t => typeMark ++ (n.toList ++ ' ' :: t.toList)
  | sample n v => n.toList ++ ' ' :: v.repr.toList

/-- Reads a line. What begins like a comment is a help or a type; any other line is a sample, and
its value stands after its last blank. -/
def read (cs : List Char) : Option Line :=
  if helpMark.isPrefixOf cs then
    (Text.splitFirst ' ' (cs.drop helpMark.length)).map fun p =>
      help (String.ofList p.1) (String.ofList p.2)
  else if typeMark.isPrefixOf cs then
    (Text.splitFirst ' ' (cs.drop typeMark.length)).map fun p =>
      type (String.ofList p.1) (String.ofList p.2)
  else if cs.head? = some '#' then none
  else do
    let p ← Text.splitLast ' ' cs
    let v ← Text.decimal? p.2
    return sample (String.ofList p.1) v

/-- Its name is one, and its text is on one line. -/
def Clean : Line → Prop
  | help n t | type n t => IsName n ∧ '\n' ∉ t.toList
  | sample n _ => IsName n

theorem read_write {l : Line} (h : l.Clean) : read l.write = some l := by
  cases l with
  | help n t =>
    have hn : ' ' ∉ n.toList := fun hm => (h.1 _ hm).1 rfl
    have hmark : helpMark.isPrefixOf (write (help n t)) :=
      List.isPrefixOf_iff_prefix.2 (List.prefix_append _ _)
    rw [read, if_pos hmark, write, List.drop_left, Text.splitFirst_append hn]
    simp
  | type n t =>
    have hn : ' ' ∉ n.toList := fun hm => (h.1 _ hm).1 rfl
    have hmark : typeMark.isPrefixOf (write (type n t)) :=
      List.isPrefixOf_iff_prefix.2 (List.prefix_append _ _)
    have hother : ¬ helpMark.isPrefixOf (write (type n t)) := by
      simp [write, helpMark, typeMark]
    rw [read, if_neg hother, if_pos hmark, write, List.drop_left, Text.splitFirst_append hn]
    simp
  | sample n v =>
    have hhead : (write (sample n v)).head? ≠ some '#' := by
      rw [write]
      cases hcs : n.toList with
      | nil => simp
      | cons c cs => simpa using (h c (by simp [hcs])).2.2
    have hnone : ∀ mark : List Char, mark.head? = some '#' →
        ¬ mark.isPrefixOf (write (sample n v)) := by
      intro mark hm hp
      obtain ⟨r, hr⟩ := List.isPrefixOf_iff_prefix.1 hp
      exact hhead (by rw [← hr, List.head?_append, hm]; rfl)
    have hv : ' ' ∉ v.repr.toList := Text.not_mem_repr v (by decide) (by decide)
    rw [read, if_neg (hnone _ rfl), if_neg (hnone _ rfl), if_neg hhead, write,
      Text.splitLast_append hv]
    simp [Text.decimal?_repr]

theorem newline_not_mem_write {l : Line} (h : l.Clean) : '\n' ∉ l.write := by
  have hname : ∀ {n : String}, IsName n → '\n' ∉ n.toList := fun hn hm => (hn _ hm).2.1 rfl
  cases l with
  | help n t => simp [write, helpMark, hname h.1, h.2]
  | type n t => simp [write, typeMark, hname h.1, h.2]
  | sample n v =>
    have hv : '\n' ∉ v.repr.toList := Text.not_mem_repr v (by decide) (by decide)
    simp [write, hname h, hv]

end Line

/-- Reads the lines of a text. Every line must end in a line break, the last one too, and a line
without anything on it is none that can be read. -/
def readLines (text : String) : Option (List Line) :=
  match (text.toList.splitOn '\n').reverse with
  | [] :: ls => ls.reverse.mapM Line.read
  | _ => none

theorem nil_not_mem_of_mapM_read {ts : List (List Char)} {ls : List Line}
    (h : ts.mapM Line.read = some ls) : [] ∉ ts := by
  induction ts generalizing ls with
  | nil => exact List.not_mem_nil
  | cons t ts ih =>
    rw [List.mapM_cons] at h
    obtain ⟨l, hl, h⟩ := Option.bind_eq_some_iff.1 h
    obtain ⟨rest, hrest, -⟩ := Option.bind_eq_some_iff.1 h
    rintro (_ | ⟨_, hm⟩)
    · cases hl
    · exact ih hrest hm

/-- A text that can be read ends in a line break, and has no blank lines. -/
theorem splitOn_of_readLines {text : String} {ls : List Line} (h : readLines text = some ls) :
    ∃ ts, text.toList.splitOn '\n' = ts ++ [[]] ∧ [] ∉ ts := by
  unfold readLines at h
  split at h
  · rename_i ts hts
    exact ⟨ts.reverse, by simpa using List.reverse_eq_iff.1 hts, nil_not_mem_of_mapM_read h⟩
  · cases h

/-- The text of lines. -/
def writeLines (ls : List Line) : List Char := ls.flatMap fun l => l.write ++ ['\n']

theorem splitOn_writeLines {ls : List Line} (h : ∀ l ∈ ls, l.Clean) :
    (writeLines ls).splitOn '\n' = ls.map Line.write ++ [[]] := by
  have htext : writeLines ls = ['\n'].intercalate (ls.map Line.write ++ [[]]) := by
    rw [Text.intercalate_concat_nil, List.flatMap_map]
    rfl
  rw [htext]
  refine List.splitOn_intercalate '\n' (fun t ht => ?_) (by simp)
  rcases List.mem_append.1 ht with ht | ht
  · obtain ⟨l, hl, rfl⟩ := List.mem_map.1 ht
    exact Line.newline_not_mem_write (h l hl)
  · simp [List.mem_singleton.1 ht]

theorem readLines_of_writeLines {ls : List Line} (h : ∀ l ∈ ls, l.Clean) {text : String}
    (ht : text.toList = writeLines ls) : readLines text = some ls := by
  have hread : (ls.map Line.write).mapM Line.read = some ls := by
    clear ht
    induction ls with
    | nil => rfl
    | cons l ls ih =>
      have hls := ih fun l' hl' => h l' (List.mem_cons_of_mem _ hl')
      simp [Line.read_write (h l List.mem_cons_self), hls]
  rw [readLines, ht, splitOn_writeLines h, List.reverse_append]
  simp [hread]

/-- What an exposition says of one metric. -/
structure Reading where
  name : String
  help : String
  type : MetricType
  value : Int
  deriving DecidableEq, Repr

namespace Reading

def fullName (scope : String) (r : Reading) : String := scope ++ "_" ++ r.name

def lines (scope : String) (r : Reading) : List Line :=
  [.help (r.fullName scope) r.help, .type (r.fullName scope) r.type.text,
   .sample (r.fullName scope) r.value]

def sample (r : Reading) : Sample := ⟨.str r.name, .int r.value, .str r.help, r.type⟩

/-- Its names are names, and its help is on one line. -/
def Clean (scope : String) (r : Reading) : Prop :=
  IsName (r.fullName scope) ∧ '\n' ∉ r.help.toList

instance (scope : String) (r : Reading) : Decidable (r.Clean scope) :=
  inferInstanceAs (Decidable (_ ∧ _))

theorem Clean.lines {scope : String} {r : Reading} (h : r.Clean scope) :
    ∀ l ∈ r.lines scope, l.Clean := by
  have htype : '\n' ∉ r.type.text.toList := by cases r.type <;> decide
  intro l hl
  simp only [Reading.lines, List.mem_cons, List.not_mem_nil, or_false] at hl
  rcases hl with rfl | rfl | rfl
  · exact h
  · exact ⟨h.1, htype⟩
  · exact h.1

theorem lines_sample (scope : String) (r : Reading) :
    (r.sample.lines (.str scope)).map String.toList = (r.lines scope).map Line.write := by
  simp [Sample.lines, sample, lines, fullName, Value.show, Value.repr, Line.write, Line.helpMark,
    Line.typeMark]

end Reading

/-- The text of samples, line by line. -/
theorem toList_render (scope : Value) {ss : List Sample} (h : ss ≠ []) :
    (render scope ss).toList =
      (ss.flatMap (Sample.lines scope)).flatMap fun l => l.toList ++ ['\n'] := by
  have hsample : ∀ s : Sample, (s.text scope).toList ++ ['\n'] =
      (s.lines scope).flatMap fun l => l.toList ++ ['\n'] := by
    intro s
    have hlines : (s.lines scope).map String.toList ≠ [] := by simp [Sample.lines]
    have hall := Text.intercalate_append ['\n'] hlines
    rw [List.flatMap_map] at hall
    rw [← hall, Sample.text, String.toList_intercalate]
    rfl
  have htexts : (ss.map (Sample.text scope)).map String.toList ≠ [] := by simpa using h
  have hall := Text.intercalate_append ['\n'] htexts
  rw [List.map_map, List.flatMap_map] at hall
  rw [List.flatMap_assoc, render, String.toList_append, String.toList_intercalate, List.map_map]
  exact hall.trans (congrArg (ss.flatMap ·) (funext hsample))

/-- The exposition of readings gives them back. -/
theorem readLines_render {scope : String} {rs : List Reading} (hne : rs ≠ [])
    (h : ∀ r ∈ rs, r.Clean scope) :
    readLines (render (.str scope) (rs.map Reading.sample)) =
      some (rs.flatMap (Reading.lines scope)) := by
  refine readLines_of_writeLines (fun l hl => ?_) ?_
  · obtain ⟨r, hr, hl⟩ := List.mem_flatMap.1 hl
    exact (h r hr).lines l hl
  · rw [toList_render _ (by simpa using hne), List.flatMap_map, writeLines, List.flatMap_assoc,
      List.flatMap_assoc]
    refine congrArg (rs.flatMap ·) (funext fun r => ?_)
    have hlines := congrArg (List.flatMap fun cs => cs ++ ['\n']) (r.lines_sample scope)
    rwa [List.flatMap_map, List.flatMap_map] at hlines

end Exposition
end Linkcut
