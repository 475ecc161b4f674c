import ProxyInjector.Proofs.Text.Segments
import ProxyInjector.Shell

/-!
# What a script sets and what its alias clears

A script is read line by line.  A host and a port may hold anything, newlines included, and stand
in the script as they are: the lines that their newlines start are lines of the script like any
other, and what these set is not what the alias clears.

* `assigned`        the variables that the lines of a script set, with their values;
* `cleared`         the variables that each alias of a script clears;
* `Clears`          a script whose alias clears just what the script sets;
* `assigned_script`, `cleared_script`   both for the script of any descriptor: all lines of its
                    address after the first are read in between;
* `script_clears`   so the script clears what it sets if and only if there are no such lines.
                    `script_strays` is a script that does not.
-/

namespace ProxyInjector.Shell

open Text (segments)

/-! ## reading a script -/

def exportStart : List Char := "export ".toList

def aliasStart : List Char := "alias unproxy='unset ".toList

/-- what an export sets: the variable in front of the first equals sign to what is behind it -/
def assignment? (line : List Char) : Option (String × String) :=
  if exportStart.isPrefixOf line then
    let text := line.drop exportStart.length
    some (String.ofList (Text.beforeFirst '=' text), String.ofList (Text.afterFirst '=' text))
  else none

/-- the variables between the start of an alias and the quote that ends it -/
def clearing? (line : List Char) : Option (List String) :=
  if aliasStart.isPrefixOf line then
    some ((segments ' ' (Text.beforeFirst '\'' (line.drop aliasStart.length))).map String.ofList)
  else none

def linesOf (text : String) : List (List Char) := segments '\n' text.toList

def assigned (script : String) : List (String × String) := (linesOf script).filterMap assignment?

def cleared (script : String) : List (List String) := (linesOf script).filterMap clearing?

/-- The script has one alias, which clears the variables that the script sets, in the same order;
it sets none of them twice, and the first three to the address. -/
structure Clears (script address : String) : Prop where
  undoes : cleared script = [(assigned script).map (·.1)]
  once : ((assigned script).map (·.1)).Nodup
  values : ((assigned script).take 3).map (·.2) = [address, address, address]

/-! ## first lines and further lines -/

def firstLine (text : String) : String := String.ofList ((linesOf text).headD [])

def furtherLines (text : String) : List (List Char) := (linesOf text).tail

theorem linesOf_eq (text : String) : linesOf text = (firstLine text).toList :: furtherLines text := by
  obtain ⟨first, rest, h⟩ := List.exists_cons_of_ne_nil (Text.segments_ne_nil '\n' text.toList)
  rw [firstLine, furtherLines, linesOf, h, String.toList_ofList]
  rfl

theorem linesOf_of_not_mem {text : String} (h : '\n' ∉ text.toList) :
    firstLine text = text ∧ furtherLines text = [] := by
  rw [firstLine, furtherLines, linesOf, Text.segments_of_not_mem h]
  exact ⟨String.ofList_toList, rfl⟩

theorem not_mem_firstLine (text : String) : '\n' ∉ (firstLine text).toList := by
  have hmem : (firstLine text).toList ∈ linesOf text := by
    rw [linesOf_eq]
    exact List.mem_cons_self
  exact Text.not_mem_of_mem_segments hmem

/-! ## exports -/

section
variable {name : String} (hline : '\n' ∉ name.toList) (value : String)
include hline

theorem linesOf_exportLine :
    linesOf (exportLine name value)
      = (exportStart ++ (name.toList ++ '=' :: (firstLine value).toList)) :: furtherLines value := by
  have hchars : (exportLine name value).toList
      = (exportStart ++ (name.toList ++ ['='])) ++ value.toList := by
    simp only [exportLine, exportStart, String.toList_append, List.append_assoc]
    rfl
  have hnone : '\n' ∉ exportStart ++ (name.toList ++ ['=']) := by
    simp only [List.mem_append, not_or]
    exact ⟨by decide, hline, by decide⟩
  rw [linesOf, hchars, Text.segments_append hnone (linesOf_eq value)]
  simp only [List.append_assoc, List.singleton_append]

/-- an export sets its variable to the first line of the value -/
theorem assigned_exportLine (hname : '=' ∉ name.toList) :
    assigned (exportLine name value)
      = (name, firstLine value) :: (furtherLines value).filterMap assignment? := by
  have hfirst : assignment? (exportStart ++ (name.toList ++ '=' :: (firstLine value).toList))
      = some (name, firstLine value) := by
    rw [assignment?, if_pos (List.isPrefixOf_iff_prefix.mpr (List.prefix_append ..)),
      List.drop_left]
    simp only [Text.beforeFirst_append_cons hname, Text.afterFirst_append_cons hname,
      String.ofList_toList]
  rw [assigned, linesOf_exportLine hline, List.filterMap_cons_some hfirst]

theorem cleared_exportLine :
    cleared (exportLine name value) = (furtherLines value).filterMap clearing? := by
  have hfirst : clearing? (exportStart ++ (name.toList ++ '=' :: (firstLine value).toList))
      = none := rfl
  rw [cleared, linesOf_exportLine hline, List.filterMap_cons_none hfirst]

end

/-! ## the script -/

theorem linesOf_script (d : Descriptor) :
    linesOf (script d) = (lines d).flatMap linesOf ++ [[]] := by
  have hchars : (script d).toList = ['\n'].intercalate ((lines d).map String.toList) ++ ['\n'] := by
    rw [script, String.toList_append, String.toList_intercalate]
    rfl
  have hne : (lines d).map String.toList ≠ [] := by simp [lines]
  rw [linesOf, hchars, Text.segments_append_sep, Text.segments_intercalate_flatMap hne,
    List.flatMap_map]
  rfl

theorem name_of_mem_assignments {d : Descriptor} {a : String × String} (h : a ∈ assignments d) :
    '\n' ∉ a.1.toList ∧ '=' ∉ a.1.toList := by
  have hall : ∀ name ∈ proxyVariables ++ [exemptVariable],
      '\n' ∉ name.toList ∧ '=' ∉ name.toList := by decide
  refine hall a.1 ?_
  have hnames : (assignments d).map (·.1) = proxyVariables ++ [exemptVariable] := rfl
  rw [← hnames]
  exact List.mem_map_of_mem h

/-- every export of the script sets its own variable, and then come the further lines of its
value -/
theorem assigned_script (d : Descriptor) :
    assigned (script d) = (assignments d).flatMap fun a =>
      (a.1, firstLine a.2) :: (furtherLines a.2).filterMap assignment? := by
  have hexports : (assignments d).map (fun a => assigned (exportLine a.1 a.2))
      = (assignments d).map fun a =>
        (a.1, firstLine a.2) :: (furtherLines a.2).filterMap assignment? :=
    List.map_congr_left fun a ha =>
      assigned_exportLine (name_of_mem_assignments ha).1 a.2 (name_of_mem_assignments ha).2
  have hrest : ["", "# Run 'unproxy' to clear these variables", aliasLine].flatMap assigned = [] := by
    decide
  rw [assigned, linesOf_script, List.filterMap_append, List.filterMap_flatMap]
  show (lines d).flatMap assigned ++ [] = _
  rw [List.append_nil, lines, List.flatMap_append, hrest, List.append_nil, List.flatMap_map,
    List.flatMap_def, hexports, ← List.flatMap_def]

theorem cleared_script (d : Descriptor) :
    cleared (script d) = ((assignments d).flatMap fun a => (furtherLines a.2).filterMap clearing?)
      ++ [(assignments d).map (·.1)] := by
  have hexports : (assignments d).map (fun a => cleared (exportLine a.1 a.2))
      = (assignments d).map fun a => (furtherLines a.2).filterMap clearing? :=
    List.map_congr_left fun a ha => cleared_exportLine (name_of_mem_assignments ha).1 a.2
  have hrest : ["", "# Run 'unproxy' to clear these variables", aliasLine].flatMap cleared
      = [(assignments d).map (·.1)] := by
    show _ = [proxyVariables ++ [exemptVariable]]
    decide
  rw [cleared, linesOf_script, List.filterMap_append, List.filterMap_flatMap]
  show (lines d).flatMap cleared ++ [] = _
  rw [List.append_nil, lines, List.flatMap_append, hrest, List.flatMap_map, List.flatMap_def,
    hexports, ← List.flatMap_def]

theorem not_mem_url_iff (d : Descriptor) :
    '\n' ∉ d.url.toList ↔ '\n' ∉ d.host.toList ∧ '\n' ∉ d.port.toList := by
  have hcolon : '\n' ∉ Descriptor.urlPrefix.toList ∧ '\n' ∉ ":".toList := by decide
  simp only [Descriptor.url, Descriptor.toString, String.toList_append, List.mem_append, not_or,
    hcolon, not_false_eq_true, true_and, and_true]

/-- **What a script sets and clears.**  Whatever the descriptor, the lines of the script set each
variable to the first line of its value, and next whatever the further lines of the value set; its
aliases are those on further lines, and at last the one that clears these variables.  So the script
has one alias, and that clears just what the script sets, with the whole address in the first three
variables, if and only if neither host nor port holds a newline. -/
theorem script_clears (d : Descriptor) :
    assigned (script d) = ((assignments d).flatMap fun a =>
      (a.1, firstLine a.2) :: (furtherLines a.2).filterMap assignment?) ∧
    cleared (script d) = ((assignments d).flatMap fun a => (furtherLines a.2).filterMap clearing?)
      ++ [(assignments d).map (·.1)] ∧
    (Clears (script d) d.url ↔ '\n' ∉ d.host.toList ∧ '\n' ∉ d.port.toList) := by
  refine ⟨assigned_script d, cleared_script d, ?_⟩
  rw [← not_mem_url_iff]
  constructor
  · intro h
    -- the first variable is set to the first line of the address
    have hvalues := h.values
    rw [assigned_script] at hvalues
    obtain ⟨hfirst, -⟩ := List.cons.inj hvalues
    have hline : firstLine d.url = d.url := hfirst
    rw [← hline]
    exact not_mem_firstLine d.url
  · intro h
    have hvalues : ∀ a ∈ assignments d, firstLine a.2 = a.2 ∧ furtherLines a.2 = [] := by
      have hhosts : '\n' ∉ (",".intercalate Address.localHosts).toList := by decide
      intro a ha
      rcases List.mem_append.mp ha with ha | ha
      · obtain ⟨name, -, rfl⟩ := List.mem_map.mp ha
        exact linesOf_of_not_mem h
      · rw [List.mem_singleton.mp ha]
        exact linesOf_of_not_mem hhosts
    have hassigned : assigned (script d) = assignments d := by
      have hown : (assignments d).map (fun a =>
          (a.1, firstLine a.2) :: (furtherLines a.2).filterMap assignment?)
          = (assignments d).map fun a => [a] :=
        List.map_congr_left fun a ha => by rw [(hvalues a ha).1, (hvalues a ha).2, List.filterMap_nil]
      rw [assigned_script, List.flatMap_def, hown, ← List.flatMap_def, List.flatMap_singleton']
    have hcleared : cleared (script d) = [(assignments d).map (·.1)] := by
      have hnone : (assignments d).flatMap (fun a => (furtherLines a.2).filterMap clearing?) = [] :=
        List.flatMap_eq_nil_iff.mpr fun a ha => by rw [(hvalues a ha).2, List.filterMap_nil]
      rw [cleared_script, hnone, List.nil_append]
    have honce : ((assignments d).map (·.1)).Nodup := by
      show (proxyVariables ++ [exemptVariable]).Nodup
      decide
    refine ⟨by rw [hcleared, hassigned], by rwa [hassigned], ?_⟩
    rw [hassigned]
    rfl

/-- a host with a line of its own behind it -/
def stray : Descriptor := ⟨"h\nexport PATH=p", "1"⟩

/-- A newline in the host starts a line that sets a variable of its own.  The alias does not clear
it, and the address is cut off. -/
theorem script_strays :
    Descriptor.parse? "h\nexport PATH=p:1" = some stray ∧
    assigned (script stray) = [("HTTP_PROXY", "http://h"), ("PATH", "p:1"),
      ("HTTPS_PROXY", "http://h"), ("PATH", "p:1"), ("ALL_PROXY", "http://h"), ("PATH", "p:1"),
      ("NO_PROXY", "localhost,127.0.0.1,::1")] ∧
    cleared (script stray) = [["HTTP_PROXY", "HTTPS_PROXY", "ALL_PROXY", "NO_PROXY"]] ∧
    ¬ Clears (script stray) stray.url := by
  have hassigned : assigned (script stray) = [("HTTP_PROXY", "http://h"), ("PATH", "p:1"),
      ("HTTPS_PROXY", "http://h"), ("PATH", "p:1"), ("ALL_PROXY", "http://h"), ("PATH", "p:1"),
      ("NO_PROXY", "localhost,127.0.0.1,::1")] := by
    rw [assigned_script]
    decide
  have hcleared : cleared (script stray)
      = [["HTTP_PROXY", "HTTPS_PROXY", "ALL_PROXY", "NO_PROXY"]] := by
    rw [cleared_script]
    decide
  refine ⟨by decide, hassigned, hcleared, fun h => ?_⟩
  have hundoes := h.undoes
  rw [hassigned, hcleared] at hundoes
  revert hundoes
  decide

end ProxyInjector.Shell
