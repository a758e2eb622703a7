import SSLproxy.Opts.Clone

/-!
# Setters of the process-wide fields

The `global_set_*` functions of `opts.c`.  Most copy their argument into a
field of `global_t`, some after checking it against the system (a directory,
a user, a group), some storing what `realpath` or `sys_realdir` makes of it.
A failed `realpath` or `sys_realdir` leaves the field freed, which the model
records as `none`.

`global_set_logbasedir` splits a log path specification, resolves its
directory part with every `%%` collapsed to `%`, and re-encodes each `%` of
the resolved directory as `%%` in front of the file part.
-/

namespace SSLproxy

namespace Global

/-! ## Copied strings -/

/-- `global_set_pidfile`. -/
def setPidfile (global : Global) (optarg : String) : Global :=
  { global with pidfile := some optarg }

/-- `global_set_mirrorif`. -/
def setMirrorif (global : Global) (optarg : String) : Global :=
  { global with mirrorif := some optarg }

/-- `global_set_mirrortarget`. -/
def setMirrortarget (global : Global) (optarg : String) : Global :=
  { global with mirrortarget := some optarg }

/-- `global_set_userdb_path`. -/
def setUserdbPath (global : Global) (optarg : String) : Global :=
  { global with userdbPath := some optarg }

/-- `global_set_openssl_engine`. -/
def setOpensslEngine (global : Global) (optarg : String) : Global :=
  { global with opensslEngine := some optarg }

/-- `global_set_certgendir_writegencerts`. -/
def setCertgendirWritegencerts (global : Global) (optarg : String) : Global :=
  { global with certgenWriteall := false, certgendir := some optarg }

/-- `global_set_certgendir_writeall`. -/
def setCertgendirWriteall (global : Global) (optarg : String) : Global :=
  { global with certgenWriteall := true, certgendir := some optarg }

/-! ## Log fields

The content log and the pcap log each have four fields in `global_t`: the
path, whether it names a directory or a log path specification, and the base
directory of a specification.  Their setters come in pairs that differ only
in which four fields they write. -/

/-- One log's fields of `global_t`. -/
structure LogSetting where
  path : Option String
  isdir : Bool
  isspec : Bool
  basedir : Option String

/-- Where `global_t` keeps one log's fields: `get` reads the four, `put`
writes the four, so that a second `put` replaces the first. -/
structure LogFields where
  get : Global → LogSetting
  put : Global → LogSetting → Global
  get_put : ∀ g s, get (put g s) = s
  put_put : ∀ g s t, put (put g s) t = put g t

/-- `contentlog`, `contentlog_isdir`, `contentlog_isspec` and
`contentlog_basedir`. -/
def contentlogFields : LogFields where
  get g := ⟨g.contentlog, g.contentlogIsdir, g.contentlogIsspec, g.contentlogBasedir⟩
  put g s := { g with contentlog := s.path, contentlogIsdir := s.isdir,
                      contentlogIsspec := s.isspec, contentlogBasedir := s.basedir }
  get_put _ _ := rfl
  put_put _ _ _ := rfl

/-- `pcaplog`, `pcaplog_isdir`, `pcaplog_isspec` and `pcaplog_basedir`. -/
def pcaplogFields : LogFields where
  get g := ⟨g.pcaplog, g.pcaplogIsdir, g.pcaplogIsspec, g.pcaplogBasedir⟩
  put g s := { g with pcaplog := s.path, pcaplogIsdir := s.isdir,
                      pcaplogIsspec := s.isspec, pcaplogBasedir := s.basedir }
  get_put _ _ := rfl
  put_put _ _ _ := rfl

/-! ## Checked settings -/

section Checked

variable (env : Env)

/-- `global_set_leafcertdir`: the argument must be a directory. -/
def setLeafcertdir (global : Global) (optarg : String) : Int × Global :=
  if env.sysIsdir optarg then (0, { global with leafcertdir := some optarg })
  else (-1, global)

/-- `global_set_defaultleafcert`: load a certificate, chain and key. -/
def setDefaultleafcert (global : Global) (optarg : String) : Int × Global :=
  let cert := env.optsLoadCertChainKey optarg
  (if cert.isSome then 0 else -1, { global with defaultleafcert := cert })

/-- `global_set_user`: the argument must name an existing user. -/
def setUser (global : Global) (optarg : String) : Int × Global :=
  if env.sysIsuser optarg then (0, { global with dropuser := some optarg })
  else (-1, global)

/-- `global_set_group`: the argument must name an existing group. -/
def setGroup (global : Global) (optarg : String) : Int × Global :=
  if env.sysIsgroup optarg then (0, { global with dropgroup := some optarg })
  else (-1, global)

/-- `global_set_jaildir`: a directory, stored as its real path. -/
def setJaildir (global : Global) (optarg : String) : Int × Global :=
  if env.sysIsdir optarg then
    let dir := env.realpath optarg
    (if dir.isSome then 0 else -1, { global with jaildir := dir })
  else (-1, global)

/-- The pattern of `global_set_connectlog` and `global_set_masterkeylog`:
store what `sys_realdir` makes of the argument with `set`, `NULL` included. -/
def setRealdirLog (set : Global → Option String → Global) (global : Global) (optarg : String) :
    Int × Global :=
  let path := env.sysRealdir optarg
  (if path.isSome then 0 else -1, set global path)

/-- `global_set_connectlog`. -/
def setConnectlog (global : Global) (optarg : String) : Int × Global :=
  setRealdirLog env (fun global path => { global with connectlog := path }) global optarg

/-- `global_set_masterkeylog`. -/
def setMasterkeylog (global : Global) (optarg : String) : Int × Global :=
  setRealdirLog env (fun global path => { global with masterkeylog := path }) global optarg

/-- The pattern of `global_set_contentlog` and `global_set_pcaplog`: a log
file, which `sys_realdir` resolves and which clears the directory and
path-spec flags; a failure leaves the path freed. -/
def setLogFile (log : LogFields) (global : Global) (optarg : String) : Int × Global :=
  match env.sysRealdir optarg with
  | none => (-1, log.put global { log.get global with path := none })
  | some path =>
    (0, log.put global { log.get global with path := some path, isdir := false, isspec := false })

/-- `global_set_contentlog`. -/
def setContentlog (global : Global) (optarg : String) : Int × Global :=
  setLogFile env contentlogFields global optarg

/-- `global_set_pcaplog`. -/
def setPcaplog (global : Global) (optarg : String) : Int × Global :=
  setLogFile env pcaplogFields global optarg

/-- The pattern of `global_set_contentlogdir` and `global_set_pcaplogdir`: a
log directory, stored as its real path; a failed `realpath` leaves the path
freed. -/
def setLogDir (log : LogFields) (global : Global) (optarg : String) : Int × Global :=
  if env.sysIsdir optarg then
    match env.realpath optarg with
    | none => (-1, log.put global { log.get global with path := none })
    | some path =>
      (0, log.put global { log.get global with path := some path, isdir := true, isspec := false })
  else (-1, global)

/-- `global_set_contentlogdir`. -/
def setContentlogdir (global : Global) (optarg : String) : Int × Global :=
  setLogDir env contentlogFields global optarg

/-- `global_set_pcaplogdir`. -/
def setPcaplogdir (global : Global) (optarg : String) : Int × Global :=
  setLogDir env pcaplogFields global optarg

/-- `global_set_leafkey`: load the leaf key, and DH parameters from the same
file into the global options when they have none.  The DH path is not
recorded in `tmp_global_opts`. -/
def setLeafkey (global : Global) (optarg : String) : Int × Global :=
  match env.sslKeyLoad optarg with
  | none => (-1, { global with leafkey := none })
  | some key =>
    (0, { global with
          leafkey := some key
          opts := { global.opts with dh := global.opts.dh <|> env.sslDhLoad optarg } })

end Checked

/-- `LeafKey leaf.key` fills the global DH parameters from the key file; a
listener cloned afterwards has none, because no path was recorded for them. -/
theorem setLeafkey_dh_not_cloned :
    (fun global : Global =>
        (global.opts.dh, (globalOptsCopy Env.sample global (Conf.init 2048 none false).tmp).map Opts.dh))
      (setLeafkey Env.sample (globalNew 2048) "leaf.key").2 = (some ⟨3⟩, some none) :=
  rfl

end Global

/-! ## Log path specifications -/

/-- The in-place loop of `global_set_logbasedir` that turns every `%%` of the
directory part into `%`. -/
def collapsePercent : List Char → List Char
  | '%' :: '%' :: rest => '%' :: collapsePercent rest
  | c :: rest => c :: collapsePercent rest
  | [] => []

/-- The loop of `global_set_logbasedir` that copies the resolved directory
doubling every `%`. -/
def encodePercent : List Char → List Char
  | '%' :: rest => '%' :: '%' :: encodePercent rest
  | c :: rest => c :: encodePercent rest
  | [] => []

/-- `global_set_logbasedir`: the resolved base directory and the log path
specification rebuilt on it, or `none` (`-1`) when the specification does not
split, the directory cannot be created, or it has no real path. -/
def globalSetLogbasedir (env : Env) (optarg : String) : Option (String × String) := do
  let (lhs, rhs) ← env.logContentSplitPathspec optarg
  let lhs := String.mk (collapsePercent lhs.toList)
  if !env.sysMkpath lhs then none
  let basedir ← env.realpath lhs
  pure (basedir, String.mk (encodePercent basedir.toList) ++ "/" ++ rhs)

namespace Global

/-- The pattern of `global_set_contentlogpathspec` and
`global_set_pcaplogpathspec`: `global_set_logbasedir` frees the old base
directory and log path first, and on success the log is a path
specification. -/
def setLogPathspec (env : Env) (log : LogFields) (global : Global) (optarg : String) :
    Int × Global :=
  match globalSetLogbasedir env optarg with
  | none => (-1, log.put global { log.get global with basedir := none, path := none })
  | some (basedir, path) =>
    (0, log.put global { log.get global with basedir := some basedir, path := some path,
                                             isdir := false, isspec := true })

/-- `global_set_contentlogpathspec`. -/
def setContentlogpathspec (env : Env) (global : Global) (optarg : String) : Int × Global :=
  setLogPathspec env contentlogFields global optarg

/-- `global_set_pcaplogpathspec`. -/
def setPcaplogpathspec (env : Env) (global : Global) (optarg : String) : Int × Global :=
  setLogPathspec env pcaplogFields global optarg

end Global

end SSLproxy
