import Reflash.Container.Basic
import Reflash.Document.Value
import Reflash.Image.Sb2
import Reflash.Release.Basic

/-!
# Document.Image — images, containers and releases as documents
-/

namespace Reflash

open Json (nat object option list)

namespace Document

def word16 (w : UInt16) : Json :=
  nat w.toNat

def word32 (w : UInt32) : Json :=
  nat w.toNat

def int32 (i : Int32) : Json :=
  .int i.toInt

def hex (b : Bytes) : Json :=
  .text (Hex.encode b)

end Document

open Document (word16 word32 int32 hex)

/-! ## Images with certificates -/

namespace Sb2

/-- The parts as they stand in the header, and the version that they are. -/
def BcdVersion.document (v : BcdVersion) : Json :=
  let text := match v.version with
    | .ok version => version.text
    | .error e => s!"error: {(ParseError.version e).message}"
  object [("raw", list word16 [v.major, v.minor, v.patch]), ("version", .text text)]

def Header.document (h : Header) : Json :=
  object [("nonce", hex h.nonce),
    ("format_version", .arr [nat h.formatMajor.toNat, nat h.formatMinor.toNat]),
    ("flags", word16 h.flags), ("has_section_hash", .bool h.hasSectionHash),
    ("image_blocks", word32 h.imageBlocks), ("first_boot_tag_block", word32 h.firstBootTagBlock),
    ("first_boot_section_id", word32 h.firstBootSection),
    ("offset_to_certificate_block", word32 h.certificateOffset),
    ("header_blocks", word16 h.headerBlocks), ("key_blob_block", word16 h.keyBlobBlock),
    ("key_blob_block_count", word16 h.keyBlobBlocks),
    ("max_section_mac_count", word16 h.sectionHashes),
    ("timestamp", .text (toString h.timestamp.toNat)), ("product_version", h.product.document),
    ("component_version", h.component.document), ("build_number", word32 h.build)]

def CertificateBlock.document (primitives : Primitives) (b : CertificateBlock) : Json :=
  object [("format_version", .arr [word16 b.formatMajor, word16 b.formatMinor]),
    ("flags", word32 b.flags), ("build_number", word32 b.build),
    ("image_length", word32 b.imageLength), ("cert_table_length", word32 b.tableLength),
    ("certificates", nat b.chain.certificates.length),
    ("rkht_sha256", hex (b.rootTableHash primitives)), ("rkh_index", nat b.rootIndex),
    ("raw_size", nat b.paddedSize), ("signature_size", nat b.chain.signatureLength)]

end Sb2

/-! ## Packets -/

namespace Dfu

def Hash.document (h : Hash) : Json :=
  object [("hash_type", option int32 h.kind), ("hash", option hex h.digest)]

def BootValidation.document (v : BootValidation) : Json :=
  object [("type", option int32 v.kind), ("bytes", option hex v.bytes)]

def InitCommand.document (c : InitCommand) : Json :=
  object [("fw_version", option word32 c.version), ("hw_version", option word32 c.hardware),
    ("sd_req", list word32 c.stackVersions), ("type", option int32 c.kind),
    ("sd_size", option word32 c.stackSize), ("bl_size", option word32 c.bootloaderSize),
    ("app_size", option word32 c.appSize), ("is_debug", option .bool c.isDebug),
    ("hash", option Hash.document c.hash),
    ("boot_validation", list BootValidation.document c.bootValidation), ("encoded", hex c.encode)]

def ResetCommand.document (c : ResetCommand) : Json :=
  object [("timeout", option word32 c.timeout)]

def Command.document (c : Command) : Json :=
  object [("op_code", option int32 c.operation), ("init", option InitCommand.document c.init),
    ("reset", option ResetCommand.document c.reset)]

def SignedCommand.document (c : SignedCommand) : Json :=
  object [("command", option Command.document c.command),
    ("signature_type", option int32 c.signatureKind), ("signature", option hex c.signature)]

def Packet.document (p : Packet) : Json :=
  object [("command", option Command.document p.command),
    ("signed_command", option SignedCommand.document p.signedCommand), ("encoded", hex p.encode)]

end Dfu

/-! ## Containers and releases -/

def Container.document (primitives : Primitives) (c : Container) : Json :=
  object [("version", c.version.document), ("pynitrokey", option Version.document c.client),
    ("sdk", option Version.document c.sdk),
    ("images", list (fun (v, data) => object [("variant", v.document), ("size", nat data.length),
      ("sha256", hex (primitives.hash data))]) c.images)]

def Asset.document (a : Asset) : Json :=
  object [("tag", .text a.tag), ("url", .text a.url), ("filename", option .text a.fileName?)]

end Reflash
