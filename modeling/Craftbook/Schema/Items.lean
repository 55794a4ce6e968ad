import Craftbook.Item.Namespace
import Craftbook.Schema.Reading

/-!
The item file: three lists of names.
-/
namespace Craftbook.Schema

def nameLists : Reader NameLists NameLists where
  fields :=
    [ .of "items" (sequence text) fun lists names => { lists with items := names },
      .of "structures" (sequence text) fun lists names => { lists with structures := names },
      .of "voxels" (sequence text) fun lists names => { lists with voxels := names } ]
  blank := {}
  finish _ lists := .ok lists

end Craftbook.Schema
