import Hashmark.Config
import Hashmark.Proofs.FileTree.Locate
import Hashmark.Proofs.Text.Encoding

/-!
# Texts in files

A text is read from the bytes that stand where a path leads, in the encoding that a configuration
names (`readText_eq_ok`), and there are few reasons why none is (`unreadable_of_readText`). What
comes of writing a text is as short a list (`writeText_writes`). Which encodings there are is up to
the host. All that is asked of one is that texts made of what it reads can be written, and read back
as they were (`Config.Faithful`); the encodings that every host knows are such
(`Config.faithful_of_ofName?`).
-/

namespace Hashmark

namespace Config

/-- The name of an encoding that the host knows holds no null character. -/
theorem null_notMem_encoding {config : Config} {codec : Text.Codec}
    (h : config.codec? = some codec) : config.encoding.toList.contains '\x00' = false := by
  unfold Config.codec? Host.codec? at h
  split at h
  · cases h
  case isFalse hnull => exact Bool.eq_false_iff.2 hnull

/-- A name that every host knows leads to the same encoding on each. -/
theorem codec?_of_ofName? {config : Config} {encoding : Text.Encoding} {codec : Text.Codec}
    (h : Text.Encoding.ofName? config.encoding = some encoding) (hcodec : config.codec? = some codec) :
    codec = encoding.codec := by
  unfold codec? Host.codec? at hcodec
  split at hcodec
  · cases hcodec
  · rw [h] at hcodec
    exact (Option.some.inj hcodec).symm

/-- A name that not every host knows leads to an encoding of the host, if to any. -/
theorem codec?_of_ofName?_eq_none {config : Config}
    (hnull : config.encoding.toList.contains '\x00' = false)
    (h : Text.Encoding.ofName? config.encoding = none) :
    config.codec? = config.host.codecs config.encoding := by
  rw [codec?, Host.codec?, if_neg (Bool.eq_false_iff.1 hnull), h]

/-- The encoding can write what it reads, and reads it back. -/
def Faithful (config : Config) : Prop :=
  ∀ codec, config.codec? = some codec → codec.Faithful

/-- The encodings that every host knows can write what they read. -/
theorem faithful_of_ofName? {config : Config} {encoding : Text.Encoding}
    (h : Text.Encoding.ofName? config.encoding = some encoding) : config.Faithful := by
  intro codec hcodec
  rw [codec?_of_ofName? h hcodec]
  exact encoding.faithful_codec

end Config

namespace FileTree

/-- Configurations with the same encoding on one host read the same. -/
theorem readText_congr {one other : Config} (hencoding : one.encoding = other.encoding)
    (hhost : one.host = other.host) (tree : FileTree) (path : Path) :
    tree.readText path one = tree.readText path other := by
  simp only [readText, Config.codec?, hencoding, hhost]

/-- A text is read from a file that decodes to it. -/
theorem readText_eq_ok {tree : FileTree} {path : Path} {config : Config} {text : String} :
    tree.readText path config = .ok text ↔
      ∃ bytes codec, tree.read path = .ok bytes ∧ config.codec? = some codec ∧
        codec.decode bytes = .ok text := by
  unfold readText
  cases hcodec : config.codec? with
  | none =>
    refine ⟨fun h => ?_, fun ⟨_, _, _, h, _⟩ => nomatch h⟩
    split at h
    · cases h
    · split at h <;> cases h
  | some codec =>
    rw [Config.null_notMem_encoding hcodec]
    simp only [Bool.false_eq_true, if_false]
    match tree.read path with
    | .error e => simp
    | .ok bytes =>
      cases hdecode : codec.decode bytes with
      | error e => simp [hdecode]
      | ok decoded => simp [hdecode]

/-- Why no text is read from where a path leads. -/
inductive Unreadable (tree : FileTree) (path : Path) (config : Config) : Failure → Prop
  /-- The name of the encoding holds the null character. -/
  | name : config.encoding.toList.contains '\x00' = true →
    Unreadable tree path config (.file ⟨.nullCharacter, path⟩)
  /-- No bytes can be read. -/
  | file {e : FileError} : tree.read path = .error e → Unreadable tree path config (.file e)
  /-- The host knows no encoding of the name. -/
  | encoding : config.codec? = none →
    Unreadable tree path config (.unknownEncoding config.encoding)
  /-- The encoding gives no text for the bytes. -/
  | bytes {bytes : List UInt8} {codec : Text.Codec} {e : Text.CodecError} :
    tree.read path = .ok bytes → config.codec? = some codec → codec.decode bytes = .error e →
    Unreadable tree path config (.undecodable e)

/-- No text is read for one of these reasons. -/
theorem unreadable_of_readText {tree : FileTree} {path : Path} {config : Config} {e : Failure}
    (h : tree.readText path config = .error e) : Unreadable tree path config e := by
  unfold readText at h
  split at h
  case isTrue hnull =>
    obtain rfl := Except.error.inj h
    exact .name hnull
  · cases hread : tree.read path with
    | error reason =>
      rw [hread] at h
      obtain rfl := Except.error.inj h
      exact .file hread
    | ok bytes =>
      rw [hread] at h
      cases hcodec : config.codec? with
      | none =>
        rw [hcodec] at h
        obtain rfl := Except.error.inj h
        exact .encoding hcodec
      | some codec =>
        rw [hcodec] at h
        simp only at h
        cases hdecode : codec.decode bytes with
        | ok text =>
          rw [hdecode] at h
          cases h
        | error reason =>
          rw [hdecode] at h
          obtain rfl := Except.error.inj h
          exact .bytes hread hcodec hdecode

/-- Paths that are the same when they are resolved lead to the same text, if to any. -/
theorem readText_unique {tree : FileTree} {one other : Path} {config : Config}
    {text text' : String} (hone : tree.readText one config = .ok text)
    (hother : tree.readText other config = .ok text')
    (hsame : one.resolve tree.here = other.resolve tree.here) : text = text' := by
  obtain ⟨bytes, found, hread, hfound, hdecode⟩ := readText_eq_ok.1 hone
  obtain ⟨bytes', found', hread', hfound', hdecode'⟩ := readText_eq_ok.1 hother
  obtain ⟨time, hstatus⟩ := read_eq_ok.1 hread
  obtain ⟨time', hstatus'⟩ := read_eq_ok.1 hread'
  obtain ⟨site, hlocate, hnode⟩ := status_eq_ok.1 hstatus
  obtain ⟨site', hlocate', hnode'⟩ := status_eq_ok.1 hstatus'
  have hsite : site = site' := by rw [locate_eq hlocate, locate_eq hlocate', hsame]
  rw [hsite, hnode'] at hnode
  obtain ⟨rfl, rfl⟩ := Node.file.inj (Option.some.inj hnode)
  rw [hfound'] at hfound
  obtain rfl := Option.some.inj hfound
  exact Except.ok.inj (hdecode.symm.trans hdecode')

/-- A path from which a text is read leads to a place that the tree lists. -/
theorem resolve_mem_of_readText {tree : FileTree} {path : Path} {config : Config} {text : String}
    (h : tree.readText path config = .ok text) :
    (path.resolve tree.here).names ∈ tree.nodes.map Prod.fst := by
  obtain ⟨bytes, -, hread, -⟩ := readText_eq_ok.1 h
  obtain ⟨time, hstatus⟩ := read_eq_ok.1 hread
  obtain ⟨site, hlocate, hnode⟩ := status_eq_ok.1 hstatus
  rw [← locate_eq hlocate]
  exact mem_nodes_of_nodeAt? hnode

/-- What comes of writing a text to where a path leads: the files then, and the failure if there is
one. -/
inductive Writes (tree : FileTree) (path : Path) (config : Config) (text : String) :
    FileTree × Except Failure Unit → Prop
  /-- The name of the encoding holds the null character. -/
  | name : config.encoding.toList.contains '\x00' = true →
    Writes tree path config text (tree, .error (.file ⟨.nullCharacter, path⟩))
  /-- No bytes can be written. -/
  | file {bytes : List UInt8} {e : FileError} : tree.write path bytes = .error e →
    Writes tree path config text (tree, .error (.file e))
  /-- The host knows no encoding of the name, and the file is left empty. -/
  | encoding {emptied : FileTree} : config.codec? = none → tree.write path [] = .ok emptied →
    Writes tree path config text (emptied, .error (.unknownEncoding config.encoding))
  /-- The encoding does not have all characters, and the file is left empty. -/
  | characters {codec : Text.Codec} {emptied : FileTree} : config.codec? = some codec →
    codec.encode text = none → tree.write path [] = .ok emptied →
    Writes tree path config text (emptied, .error .unencodable)
  /-- The text is written. -/
  | written {codec : Text.Codec} {bytes : List UInt8} {written : FileTree} :
    config.codec? = some codec → codec.encode text = some bytes →
    tree.write path bytes = .ok written → Writes tree path config text (written, .ok ())

/-- Writing a text comes to one of these. -/
theorem writeText_writes (tree : FileTree) (path : Path) (config : Config) (text : String) :
    Writes tree path config text (tree.writeText path config text) := by
  unfold writeText
  split
  case isTrue hnull => exact .name hnull
  · cases hcodec : config.codec? with
    | none =>
      simp only
      cases hwrite : tree.write path [] with
      | error e => exact .file hwrite
      | ok emptied => exact .encoding hcodec hwrite
    | some codec =>
      simp only
      cases hencode : codec.encode text with
      | none =>
        simp only
        cases hwrite : tree.write path [] with
        | error e => exact .file hwrite
        | ok emptied => exact .characters hcodec hencode hwrite
      | some bytes =>
        simp only
        cases hwrite : tree.write path bytes with
        | error e => exact .file hwrite
        | ok written => exact .written hcodec hencode hwrite

/-- A text is written if its bytes can be. -/
theorem writeText_of_encode {tree written : FileTree} {path : Path} {config : Config}
    {text : String} {codec : Text.Codec} {bytes : List UInt8} (hcodec : config.codec? = some codec)
    (hencode : codec.encode text = some bytes) (h : tree.write path bytes = .ok written) :
    tree.writeText path config text = (written, .ok ()) := by
  have hname := Config.null_notMem_encoding hcodec
  unfold writeText
  simp only [hname, hcodec, hencode, h, Bool.false_eq_true, if_false]

/-- A text with characters that the encoding does not have leaves the file empty. -/
theorem writeText_of_encode_eq_none {tree emptied : FileTree} {path : Path} {config : Config}
    {text : String} {codec : Text.Codec} (hcodec : config.codec? = some codec)
    (hencode : codec.encode text = none) (h : tree.write path [] = .ok emptied) :
    tree.writeText path config text = (emptied, .error .unencodable) := by
  have hname := Config.null_notMem_encoding hcodec
  unfold writeText
  simp only [hname, hcodec, hencode, h, Bool.false_eq_true, if_false]

end FileTree

end Hashmark
