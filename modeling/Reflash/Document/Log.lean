import Reflash.Document.Image
import Reflash.Json.Basic
import Reflash.Scripted.World

/-!
# Document.Log — what happened, as documents

Every event is an array that starts with who took part in it.  That a step begins shows in what is
done in it, and leaves no event of its own.
-/

namespace Reflash

open Json (nat option)
open Document (hex)

def event (words : List String) (parts : List Json) : Json :=
  .arr (words.map .text ++ parts)

def Call.event (name : String) : Call → Json
  | .send (.direct command label data) length =>
      Reflash.event [name, "legacy"] [nat command.toNat, .text label, hex data, option nat length]
  | .send (.app application data) length =>
      Reflash.event [name, "app", application.text] [hex data, option nat length]
  | .wink => Reflash.event [name, "wink"] []
  | .close => Reflash.event [name, "close"] []

namespace Update

def BootloaderCall.event (hash : Bytes → Bytes) (name : String) : BootloaderCall → Json
  | .uuid => Reflash.event [name, "uuid"] []
  | .update image => Reflash.event [name, "update"] [nat image.length, hex (hash image)]
  | .reboot => Reflash.event [name, "reboot"] []
  | .close => Reflash.event [name, "close"] []

def Bar.text : Bar → String
  | .download => "download"
  | .update => "update"
  | .finalization => "finalization"

def Notice.event? : Notice → Option Json
  | .enter _ => none
  | .warning w => some (Reflash.event ["ui", "warning", w.id] [])
  | .hint => some (Reflash.event ["ui", "hint"] [])
  | .touch => some (Reflash.event ["ui", "touch"] [])
  | .barStart bar label => some (Reflash.event ["bar", bar.text, "start"] [option .text label])
  | .barProgress bar current total =>
      some (Reflash.event ["bar", bar.text] [nat current, nat total])
  | .barFinish bar => some (Reflash.event ["bar", bar.text, "finish"] [])
  | .sleep milliseconds => some (Reflash.event ["sleep"] [nat milliseconds])

def Confirmation.subject : Confirmation → Json
  | .download current new | .update current new =>
      .arr [option (fun v : Version => .text v.text) current, .text new.text]
  | .clientVersion current required => .arr [.text current.text, .text required.text]
  | .notes lines => nat lines.length
  | .sameVersion version => .text version.text

end Update

def Scripted.Event.document? (hash : Bytes → Bytes) : Scripted.Event → Option Json
  | .device name call => some (call.event name)
  | .bootloader name call => some (call.event hash name)
  | .told notice => notice.event?
  | .confirm c => some (Reflash.event ["ui", requestName c] [c.subject])
  | .awaitBootloader model => some (Reflash.event ["handler", "await_bootloader", model.name] [])
  | .awaitDevice model retries =>
      some (Reflash.event ["handler", "await_device", model.name] [nat retries])
  | .latestRelease => some (Reflash.event ["repository", "latest"] [])
  | .release tag => some (Reflash.event ["repository", "release", tag] [])
  | .download asset => some (Reflash.event ["repository", "download", asset.tag, asset.url] [])

end Reflash
