import AcmeClient.FileTree.Basic
import AcmeClient.Settings.Basic

namespace AcmeClient.Settings

def unifyLines : List Char → List Char
  | [] => []
  | '\r' :: '\n' :: rest => '\n' :: unifyLines rest
  | '\r' :: rest => '\n' :: unifyLines rest
  | c :: rest => c :: unifyLines rest

def ofBytes (path : String) (content : Bytes) (loader : Yaml.Loader := Yaml.load) :
    Except Failure Settings :=
  match Text.Utf8.decode content with
  | .error e => .error (.defect (.undecodable e))
  | .ok text =>
    match loader (unifyLines text) with
    | .ok value => ofDatum value
    | .error (.malformed reason) => .error (.fault (.malformedSettings path reason))
    | .error fault => .error (.defect (.unloadable fault))

def load (files : FileTree) (place : Location) (loader : Yaml.Loader := Yaml.load) :
    Except Failure Settings :=
  if place.hasNull then .error (.defect .nullInPath)
  else
    match files.read place with
    | .ok content => ofBytes place.toString content loader
    | .error e => .error (.fault (.unreadableSettings place.toString e.message))

end AcmeClient.Settings
