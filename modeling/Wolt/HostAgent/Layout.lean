/-
# Paths and patterns

The default paths of `AgentConfig`, the names of the files the agent makes beside them, and the
patterns of `host_agent/server.py`.
-/

import Wolt.HostAgent.State
import Wolt.Python.IpAddress

namespace Wolt.HostAgent

open Wolt.Python

/-! ## Paths -/

/-- `project_dir`. -/
def projectDir : Path := ["data".toList, "WOLT".toList]

/-- `compose_file`. -/
def composeFile : Path := projectDir ++ ["compose.web.yml".toList]

/-- `host_agent_compose_file`. -/
def hostAgentComposeFile : Path := projectDir ++ ["compose.host-agent.yml".toList]

/-- `project_dir / "VERSION"`. -/
def versionFile : Path := projectDir ++ ["VERSION".toList]

/-- `runtime_dir`. -/
def runtimeDir : Path := projectDir ++ ["runtime".toList]

/-- `agent_install_dir`. -/
def agentInstallDir : Path := ["opt".toList, "wolt-host-agent".toList, "host_agent".toList]

/-- `state_file.parent`. -/
def stateDir : Path := ["var".toList, "lib".toList, "wolt-agent".toList]

/-- Where databases are dumped to. -/
def backupsDir : Path := stateDir ++ ["backups".toList]

/-- Where the runtime is backed up to. -/
def runtimeBackupsDir : Path := stateDir ++ ["runtime-backups".toList]

/-- `cosign_binary`. -/
def cosignBinary : Path := ["usr".toList, "local".toList, "bin".toList, "cosign".toList]

/-- `systemd_run_binary`. -/
def systemdRunBinary : Path := ["usr".toList, "bin".toList, "systemd-run".toList]

/-- `f"pre-upgrade-{uuid}.dump"` among the dumps. -/
def dumpPath (uuid : Text) : Path :=
  backupsDir ++ ["pre-upgrade-".toList ++ uuid ++ ".dump".toList]

/-- `f"runtime-staging-{uuid}"`. -/
def stagingPath (uuid : Text) : Path := stateDir ++ ["runtime-staging-".toList ++ uuid]

/-- `destination.with_name(f".{destination.name}.new-{hex}")`. -/
def temporaryPath (destination : Path) (hex : Text) : Path :=
  destination.dropLast ++ [".".toList ++ destination.getLastD [] ++ ".new-".toList ++ hex]

/-! ## Patterns -/

/-- The first characters of the decimal digits that `\d` matches, ten in a row. -/
def digitBlocks : List ℕ :=
  [0x30, 0x660, 0x6f0, 0x7c0, 0x966, 0x9e6, 0xa66, 0xae6, 0xb66, 0xbe6, 0xc66, 0xce6, 0xd66, 0xde6,
    0xe50, 0xed0, 0xf20, 0x1040, 0x1090, 0x17e0, 0x1810, 0x1946, 0x19d0, 0x1a80, 0x1a90, 0x1b50,
    0x1bb0, 0x1c40, 0x1c50, 0xa620, 0xa8d0, 0xa900, 0xa9d0, 0xa9f0, 0xaa50, 0xabf0, 0xff10, 0x104a0,
    0x10d30, 0x11066, 0x110f0, 0x11136, 0x111d0, 0x112f0, 0x11450, 0x114d0, 0x11650, 0x116c0,
    0x11730, 0x118e0, 0x11950, 0x11c50, 0x11d50, 0x11da0, 0x11f50, 0x16a60, 0x16ac0, 0x16b50,
    0x1d7ce, 0x1d7d8, 0x1d7e2, 0x1d7ec, 0x1d7f6, 0x1e140, 0x1e2f0, 0x1e4f0, 0x1e950, 0x1fbf0]

/-- `\d`. -/
def isDigitChar (c : Char) : Bool :=
  digitBlocks.any fun start => start ≤ c.toNat && c.toNat < start + 10

/-- `[A-Za-z0-9]`. -/
def isAsciiAlphanumeric (c : Char) : Bool :=
  ('A' ≤ c && c ≤ 'Z') || ('a' ≤ c && c ≤ 'z') || ('0' ≤ c && c ≤ '9')

/-- `[0-9a-f]`. -/
def isLowerHex (c : Char) : Bool := ('0' ≤ c && c ≤ '9') || ('a' ≤ c && c ≤ 'f')

/-- `\d+`, and then the rest has to match. -/
def afterDigits (rest : Text → Bool) (text : Text) : Bool :=
  match text.takeWhile isDigitChar with
  | [] => false
  | _ => rest (text.dropWhile isDigitChar)

/-- A dot, and then the rest has to match. -/
def afterDot (rest : Text → Bool) : Text → Bool
  | '.' :: text => rest text
  | _ => false

/-- `(?:[-.][A-Za-z0-9.-]+)?`. -/
def versionSuffix : Text → Bool
  | [] => true
  | c :: text =>
      (c = '-' || c = '.') && text ≠ [] &&
        text.all fun c => isAsciiAlphanumeric c || c = '.' || c = '-'

/-- `VERSION_PATTERN.fullmatch`. -/
def versionPattern (version : Text) : Bool :=
  afterDigits (afterDot (afterDigits (afterDot (afterDigits versionSuffix))))
    (if version.head? = some 'v' then version.tail else version)

/-- `version if version.startswith("v") else f"v{version}"`. -/
def canonicalVersion (version : Text) : Text :=
  if version.head? = some 'v' then version else 'v' :: version

/-- `DATABASE_IDENTIFIER_PATTERN.fullmatch`. -/
def databaseIdentifierPattern : Text → Bool
  | [] => false
  | c :: text =>
      (('A' ≤ c && c ≤ 'Z') || ('a' ≤ c && c ≤ 'z') || c = '_') && text.length ≤ 62 &&
        text.all fun c => isAsciiAlphanumeric c || c = '_'

/-- `IMAGE_REFERENCE_PATTERN.fullmatch`. -/
def imageReferencePattern : Text → Bool
  | [] => false
  | c :: text =>
      isAsciiAlphanumeric c && text.length ≤ 299 &&
        text.all fun c => isAsciiAlphanumeric c || c ∈ ['.', '_', '/', '@', ':', '-']

/-- `re.fullmatch(r"[0-9a-f]{12,64}", text)`. -/
def containerPattern (text : Text) : Bool :=
  12 ≤ text.length && text.length ≤ 64 && text.all isLowerHex

/-- `re.fullmatch(r"sha256:[0-9a-f]{64}", text)`. -/
def digestPattern (text : Text) : Bool :=
  text.take 7 = "sha256:".toList && (text.drop 7).length = 64 && (text.drop 7).all isLowerHex

/-- `str(n)`. -/
def integerText (n : ℤ) : Text :=
  if n < 0 then '-' :: decimal n.natAbs else decimal n.natAbs

/-- `_network_values`: a normalised address and a range of allowed size. -/
def networkValues (sourceIp : Text) (start stop : ℤ) : Except AgentError FirewallRule :=
  match ipAddress sourceIp with
  | none => .error .invalidFirewallSourceIp
  | some address =>
      if ¬ (1024 ≤ start ∧ start ≤ stop ∧ stop ≤ 65535) then .error .invalidPublishedUdpRange
      else if stop - start + 1 > 100 then .error .publishedUdpRangeTooWide
      else .ok ⟨address.str, start, stop⟩

/-- What has been accepted is accepted again and stays as it is. -/
theorem networkValues_of_networkValues {sourceIp : Text} {start stop : ℤ} {rule : FirewallRule}
    (h : networkValues sourceIp start stop = .ok rule) :
    networkValues rule.sourceIp rule.udpStart rule.udpEnd = .ok rule := by
  unfold networkValues at h
  split at h
  · cases h
  · rename_i address haddress
    split_ifs at h with hrange hwidth
    obtain rfl := Except.ok.inj h
    simp only [networkValues, ipAddress_str_of_ipAddress haddress, if_neg (not_not.2 hrange),
      if_neg hwidth]

end Wolt.HostAgent
