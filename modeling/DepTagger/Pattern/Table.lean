import DepTagger.Pattern.Basic

namespace DepTagger

namespace Pattern

def builtin : List Pattern := [
  ⟨[⟨"rel", ["root", "prt"], true⟩],
    false⟩,
  ⟨[⟨"rel", ["root", "neg"], true⟩],
    false⟩,
  ⟨[⟨"rel", ["root"], true⟩,
    ⟨"ent1", ["root", "nsubjpass"], false⟩,
    ⟨"cond", ["root", "!dobj", "!xcomp", "!prep", "advcl"], false⟩,
    ⟨"cond", ["root", "prep", "advmod"], false⟩],
    true⟩,
  ⟨[⟨"rel", ["root"], true⟩,
    ⟨"ent1", ["root", "nsubj"], false⟩,
    ⟨"ent2", ["root", "dobj"], false⟩,
    ⟨"cond", ["root", "dobj", "rcmod"], false⟩,
    ⟨"cond", ["root", "advcl"], false⟩],
    true⟩,
  ⟨[⟨"rel", ["root"], true⟩,
    ⟨"ent1", ["root", "nsubj"], false⟩,
    ⟨"ent2", ["root", "dobj"], false⟩,
    ⟨"cond", ["root", "dobj", "infmod"], false⟩,
    ⟨"cond", ["root", "advcl"], false⟩],
    true⟩,
  ⟨[⟨"rel", ["root"], true⟩,
    ⟨"ent1", ["root", "nsubj"], false⟩,
    ⟨"ent2", ["root", "dobj"], false⟩,
    ⟨"cond", ["root", "dobj", "prep"], false⟩,
    ⟨"cond", ["root", "advcl"], false⟩],
    true⟩,
  ⟨[⟨"rel", ["root"], true⟩,
    ⟨"ent1", ["root", "nsubj"], false⟩,
    ⟨"ent2", ["root", "dobj"], false⟩,
    ⟨"cond", ["root", "advcl"], false⟩],
    true⟩,
  ⟨[⟨"rel", ["root"], true⟩,
    ⟨"ent1", ["root", "nsubj"], false⟩,
    ⟨"ent2", ["root", "dobj"], false⟩,
    ⟨"cond", ["root", "dobj", "rcmod"], false⟩,
    ⟨"cond", ["root", "prep"], false⟩],
    true⟩,
  ⟨[⟨"rel", ["root"], true⟩,
    ⟨"ent1", ["root", "nsubj"], false⟩,
    ⟨"ent2", ["root", "dobj"], false⟩,
    ⟨"cond", ["root", "dobj", "infmod"], false⟩,
    ⟨"cond", ["root", "prep"], false⟩],
    true⟩,
  ⟨[⟨"rel", ["root"], true⟩,
    ⟨"ent1", ["root", "nsubj"], false⟩,
    ⟨"ent2", ["root", "dobj"], false⟩,
    ⟨"cond", ["root", "dobj", "prep"], false⟩,
    ⟨"cond", ["root", "prep"], false⟩],
    true⟩,
  ⟨[⟨"rel", ["root"], true⟩,
    ⟨"ent1", ["root", "nsubj"], false⟩,
    ⟨"ent2", ["root", "dobj"], false⟩,
    ⟨"cond", ["root", "prep"], false⟩],
    true⟩,
  ⟨[⟨"rel", ["root"], true⟩,
    ⟨"ent2", ["root", "prep", "pobj"], false⟩,
    ⟨"ent1", ["root", "nsubj"], false⟩,
    ⟨"cond", ["root", "prep", "pcomp"], false⟩],
    true⟩,
  ⟨[⟨"rel", ["root"], true⟩,
    ⟨"ent2", ["root", "dobj"], false⟩,
    ⟨"cond", ["root", "dobj", "rcmod"], false⟩,
    ⟨"ent1", ["root", "nsubj"], false⟩,
    ⟨"cond", ["root", "advmod"], false⟩,
    ⟨"cond", ["root", "dep"], false⟩],
    true⟩,
  ⟨[⟨"rel", ["root"], true⟩,
    ⟨"ent2", ["root", "dobj"], false⟩,
    ⟨"cond", ["root", "dobj", "infmod"], false⟩,
    ⟨"ent1", ["root", "nsubj"], false⟩,
    ⟨"cond", ["root", "advmod"], false⟩,
    ⟨"cond", ["root", "dep"], false⟩],
    true⟩,
  ⟨[⟨"rel", ["root"], true⟩,
    ⟨"ent2", ["root", "dobj"], false⟩,
    ⟨"cond", ["root", "dobj", "prep"], false⟩,
    ⟨"ent1", ["root", "nsubj"], false⟩,
    ⟨"cond", ["root", "advmod"], false⟩,
    ⟨"cond", ["root", "dep"], false⟩],
    true⟩,
  ⟨[⟨"rel", ["root"], true⟩,
    ⟨"ent2", ["root", "dobj"], false⟩,
    ⟨"ent1", ["root", "nsubj"], false⟩,
    ⟨"cond", ["root", "advmod"], false⟩,
    ⟨"cond", ["root", "dep"], false⟩],
    true⟩,
  ⟨[⟨"rel", ["root"], true⟩,
    ⟨"ent2", ["root", "dobj"], false⟩,
    ⟨"cond", ["root", "dobj", "rcmod"], false⟩,
    ⟨"ent1", ["root", "nsubj"], false⟩,
    ⟨"cond", ["root", "advmod"], false⟩],
    true⟩,
  ⟨[⟨"rel", ["root"], true⟩,
    ⟨"ent2", ["root", "dobj"], false⟩,
    ⟨"cond", ["root", "dobj", "infmod"], false⟩,
    ⟨"ent1", ["root", "nsubj"], false⟩,
    ⟨"cond", ["root", "advmod"], false⟩],
    true⟩,
  ⟨[⟨"rel", ["root"], true⟩,
    ⟨"ent2", ["root", "dobj"], false⟩,
    ⟨"cond", ["root", "dobj", "prep"], false⟩,
    ⟨"ent1", ["root", "nsubj"], false⟩,
    ⟨"cond", ["root", "advmod"], false⟩],
    true⟩,
  ⟨[⟨"rel", ["root"], true⟩,
    ⟨"ent2", ["root", "dobj"], false⟩,
    ⟨"ent1", ["root", "nsubj"], false⟩,
    ⟨"cond", ["root", "advmod"], false⟩],
    true⟩,
  ⟨[⟨"rel", ["root"], true⟩,
    ⟨"rel", ["root", "ccomp"], true⟩,
    ⟨"ent2", ["root", "ccomp", "nsubj"], false⟩,
    ⟨"cond", ["root", "ccomp", "nsubj", "partmod"], false⟩,
    ⟨"ent1", ["root", "nsubj"], false⟩,
    ⟨"cond", ["root", "ccomp", "dobj"], false⟩,
    ⟨"cond", ["root", "ccomp", "prep"], false⟩],
    true⟩,
  ⟨[⟨"rel", ["root"], true⟩,
    ⟨"rel", ["root", "ccomp"], true⟩,
    ⟨"ent2", ["root", "ccomp", "nsubj"], false⟩,
    ⟨"ent1", ["root", "nsubj"], false⟩,
    ⟨"cond", ["root", "ccomp", "dobj"], false⟩,
    ⟨"cond", ["root", "ccomp", "prep"], false⟩],
    true⟩,
  ⟨[⟨"rel", ["root"], true⟩,
    ⟨"rel", ["root", "ccomp"], false⟩,
    ⟨"ent2", ["root", "ccomp", "nsubjpass"], false⟩,
    ⟨"ent1", ["root", "nsubj"], false⟩,
    ⟨"cond", ["root", "prep", "advcl"], false⟩],
    true⟩,
  ⟨[⟨"rel", ["root"], true⟩,
    ⟨"rel", ["root", "ccomp"], true⟩,
    ⟨"ent2", ["root", "ccomp", "nsubj"], false⟩,
    ⟨"cond", ["root", "ccomp", "nsubj", "partmod"], false⟩,
    ⟨"ent1", ["root", "nsubj"], false⟩],
    true⟩,
  ⟨[⟨"rel", ["root"], true⟩,
    ⟨"rel", ["root", "ccomp"], true⟩,
    ⟨"ent2", ["root", "ccomp", "nsubj"], false⟩,
    ⟨"ent1", ["root", "nsubj"], false⟩],
    true⟩,
  ⟨[⟨"rel", ["root"], true⟩,
    ⟨"ent1", ["root", "nsubj"], false⟩,
    ⟨"ent2", ["root", "dobj"], false⟩,
    ⟨"cond", ["root", "dobj", "rcmod"], false⟩,
    ⟨"cond", ["root", "partmod"], false⟩],
    true⟩,
  ⟨[⟨"rel", ["root"], true⟩,
    ⟨"ent1", ["root", "nsubj"], false⟩,
    ⟨"ent2", ["root", "dobj"], false⟩,
    ⟨"cond", ["root", "dobj", "infmod"], false⟩,
    ⟨"cond", ["root", "partmod"], false⟩],
    true⟩,
  ⟨[⟨"rel", ["root"], true⟩,
    ⟨"ent1", ["root", "nsubj"], false⟩,
    ⟨"ent2", ["root", "dobj"], false⟩,
    ⟨"cond", ["root", "dobj", "prep"], false⟩,
    ⟨"cond", ["root", "partmod"], false⟩],
    true⟩,
  ⟨[⟨"rel", ["root"], true⟩,
    ⟨"ent1", ["root", "nsubj"], false⟩,
    ⟨"ent2", ["root", "dobj"], false⟩,
    ⟨"cond", ["root", "partmod"], false⟩],
    true⟩,
  ⟨[⟨"rel", ["root"], true⟩,
    ⟨"ent1", ["root", "dobj"], false⟩,
    ⟨"cond", ["root", "prep"], false⟩],
    true⟩,
  ⟨[⟨"rel", ["root", "prep", "pcomp"], true⟩,
    ⟨"ent1", ["root", "nsubj"], false⟩,
    ⟨"ent2", ["root", "prep", "pcomp", "dobj"], false⟩],
    true⟩,
  ⟨[⟨"rel", ["root", "!nsubj", "!dobj", "xcomp"], true⟩,
    ⟨"ent1", ["root", "nsubjpass"], false⟩,
    ⟨"ent2", ["root", "xcomp", "dobj"], false⟩,
    ⟨"cond", ["root", "xcomp", "dobj", "prep"], false⟩],
    true⟩,
  ⟨[⟨"rel", ["root", "!nsubj", "!dobj", "xcomp"], true⟩,
    ⟨"ent1", ["root", "nsubjpass"], false⟩,
    ⟨"ent2", ["root", "xcomp", "dobj"], false⟩],
    true⟩,
  ⟨[⟨"rel", ["root", "!dobj", "xcomp"], true⟩,
    ⟨"ent1", ["root", "nsubj"], false⟩,
    ⟨"ent2", ["root", "xcomp", "dobj"], false⟩,
    ⟨"cond", ["root", "xcomp", "dobj", "prep"], false⟩,
    ⟨"cond", ["root", "xcomp", "prep"], false⟩],
    true⟩,
  ⟨[⟨"rel", ["root", "!dobj", "xcomp"], true⟩,
    ⟨"ent1", ["root", "nsubj"], false⟩,
    ⟨"ent2", ["root", "xcomp", "dobj"], false⟩,
    ⟨"cond", ["root", "xcomp", "prep"], false⟩],
    true⟩,
  ⟨[⟨"ent1", ["root", "nsubjpass"], false⟩,
    ⟨"rel", ["root", "prep", "pobj", "dep"], false⟩,
    ⟨"ent2", ["root", "prep", "pobj", "dep", "nsubj"], false⟩,
    ⟨"cond", ["root", "prep", "pobj", "dep", "prep"], false⟩],
    true⟩,
  ⟨[⟨"ent2", ["root", "nsubj"], false⟩,
    ⟨"rel", ["root", "xcomp"], true⟩,
    ⟨"ent1", ["root", "xcomp", "prep", "pobj"], false⟩],
    true⟩,
  ⟨[⟨"rel", ["root"], true⟩,
    ⟨"rel", ["root", "cop"], true⟩,
    ⟨"ent1", ["root", "!xcomp", "!dobj", "!prep", "nsubj"], false⟩],
    true⟩,
  ⟨[⟨"ent1", ["root", "nsubj"], false⟩,
    ⟨"rel", ["root", "xcomp"], true⟩,
    ⟨"ent2", ["root", "!dobj", "xcomp", "dobj"], false⟩,
    ⟨"cond", ["root", "xcomp", "dobj", "prep"], false⟩,
    ⟨"cond", ["root", "xcomp", "advcl"], false⟩],
    true⟩,
  ⟨[⟨"ent1", ["root", "nsubj"], false⟩,
    ⟨"rel", ["root", "xcomp"], true⟩,
    ⟨"ent2", ["root", "!dobj", "xcomp", "dobj"], false⟩,
    ⟨"cond", ["root", "xcomp", "advcl"], false⟩],
    true⟩,
  ⟨[⟨"ent1", ["root", "nsubj"], false⟩,
    ⟨"rel", ["root", "xcomp"], true⟩,
    ⟨"ent2", ["root", "!dobj", "xcomp", "dobj"], false⟩,
    ⟨"cond", ["root", "xcomp", "dobj", "prep"], false⟩,
    ⟨"cond", ["root", "advcl"], false⟩],
    true⟩,
  ⟨[⟨"ent1", ["root", "nsubj"], false⟩,
    ⟨"rel", ["root", "xcomp"], true⟩,
    ⟨"ent2", ["root", "!dobj", "xcomp", "dobj"], false⟩,
    ⟨"cond", ["root", "advcl"], false⟩],
    true⟩,
  ⟨[⟨"ent1", ["root", "nsubj"], false⟩,
    ⟨"rel", ["root", "xcomp"], true⟩,
    ⟨"ent2", ["root", "!dobj", "xcomp", "dobj"], false⟩,
    ⟨"cond", ["root", "xcomp", "dobj", "prep"], false⟩],
    true⟩,
  ⟨[⟨"ent1", ["root", "nsubj"], false⟩,
    ⟨"rel", ["root", "xcomp"], true⟩,
    ⟨"ent2", ["root", "!dobj", "xcomp", "dobj"], false⟩],
    true⟩,
  ⟨[⟨"rel", ["root"], true⟩,
    ⟨"ent1", ["root", "nsubjpass"], false⟩,
    ⟨"cond", ["root", "advcl"], false⟩,
    ⟨"cond", ["root", "prep", "dep"], false⟩],
    true⟩,
  ⟨[⟨"rel", ["root"], true⟩,
    ⟨"ent1", ["root", "nsubjpass"], false⟩,
    ⟨"cond", ["root", "!dobj", "!xcomp", "!prep", "advcl"], false⟩],
    true⟩,
  ⟨[⟨"rel", ["root", "!nsubj", "!xcomp", "!prep", "dobj", "infmod"], true⟩,
    ⟨"ent1", ["root", "dobj", "infmod", "dobj"], false⟩],
    true⟩,
  ⟨[⟨"rel", ["root", "!dobj", "!xcomp", "!prep"], true⟩,
    ⟨"ent1", ["root", "nsubj"], false⟩,
    ⟨"cond", ["root", "advcl"], false⟩],
    true⟩,
  ⟨[⟨"rel", ["root", "!dobj", "!xcomp", "!prep"], true⟩,
    ⟨"rel", ["root", "dep"], false⟩,
    ⟨"ent1", ["root", "nsubj"], false⟩],
    true⟩,
  ⟨[⟨"rel", ["root"], true⟩,
    ⟨"ent1", ["root", "dobj"], false⟩,
    ⟨"cond", ["root", "csubj"], false⟩],
    true⟩,
  ⟨[⟨"rel", ["root", "!dobj"], true⟩,
    ⟨"ent1", ["root", "csubj"], true⟩,
    ⟨"ent1", ["root", "csubj", "dobj"], false⟩,
    ⟨"cond", ["root", "advmod"], false⟩],
    true⟩,
  ⟨[⟨"rel", ["root", "!dobj"], true⟩,
    ⟨"ent1", ["root", "csubj"], true⟩,
    ⟨"cond", ["root", "advmod"], false⟩],
    true⟩,
  ⟨[⟨"rel", ["root"], true⟩,
    ⟨"rel", ["root", "amod"], false⟩,
    ⟨"ent1", ["root", "prep=of", "pobj"], false⟩,
    ⟨"cond", ["root", "rcmod"], false⟩],
    true⟩,
  ⟨[⟨"rel", ["root"], true⟩,
    ⟨"rel", ["root", "xcomp"], true⟩,
    ⟨"rel", ["root", "xcomp", "xcomp"], true⟩,
    ⟨"ent1", ["root", "nsubj"], false⟩,
    ⟨"ent2", ["root", "xcomp", "nsubj"], false⟩,
    ⟨"cond", ["root", "xcomp", "advcl"], false⟩],
    true⟩,
  ⟨[⟨"rel", ["root"], true⟩,
    ⟨"ent1", ["root", "nsubjpass"], false⟩,
    ⟨"cond", ["root", "nsubjpass", "rcmod"], false⟩,
    ⟨"ent2", ["root", "prep=to", "pobj"], false⟩],
    true⟩,
  ⟨[⟨"rel", ["root"], true⟩,
    ⟨"ent1", ["root", "nsubj"], false⟩,
    ⟨"ent2", ["root", "prep=to", "pobj"], false⟩,
    ⟨"cond", ["root", "advcl"], false⟩],
    true⟩,
  ⟨[⟨"rel", ["root"], true⟩,
    ⟨"ent1", ["root", "nsubjpass"], false⟩,
    ⟨"ent2", ["root", "prep=to", "pobj"], false⟩,
    ⟨"cond", ["root", "prep=at"], false⟩],
    true⟩,
  ⟨[⟨"rel", ["root"], true⟩,
    ⟨"ent1", ["root", "nsubjpass"], false⟩,
    ⟨"ent2", ["root", "prep=as", "pobj"], false⟩],
    true⟩,
  ⟨[⟨"rel", ["root"], true⟩,
    ⟨"ent1", ["root", "nsubjpass"], false⟩,
    ⟨"ent2", ["root", "prep=in", "pobj"], false⟩,
    ⟨"cond", ["root", "advcl"], false⟩],
    true⟩,
  ⟨[⟨"rel", ["root"], true⟩,
    ⟨"ent1", ["root", "nsubjpass"], false⟩,
    ⟨"ent2", ["root", "prep=in", "pobj"], false⟩],
    true⟩,
  ⟨[⟨"rel", ["root"], true⟩,
    ⟨"ent1", ["root", "nsubjpass"], false⟩,
    ⟨"ent2", ["root", "prep=to", "pobj"], false⟩],
    true⟩,
  ⟨[⟨"rel", ["root"], true⟩,
    ⟨"ent1", ["root", "nsubj"], false⟩,
    ⟨"ent2", ["root", "prep=on", "pobj"], false⟩],
    true⟩,
  ⟨[⟨"rel", ["root"], true⟩,
    ⟨"rel", ["root", "cop"], true⟩,
    ⟨"rel", ["root", "xcomp"], true⟩,
    ⟨"ent1", ["root", "nsubj"], false⟩,
    ⟨"cond", ["root", "xcomp", "!dobj", "!nsubj", "advmod"], false⟩],
    true⟩,
  ⟨[⟨"rel", ["root"], true⟩,
    ⟨"ent2", ["root", "nsubjpass"], false⟩,
    ⟨"ent1", ["root", "prep=by", "pobj"], false⟩],
    true⟩,
  ⟨[⟨"rel", ["root"], true⟩,
    ⟨"ent1", ["root", "nsubjpass"], false⟩,
    ⟨"cond", ["root", "prep=upon"], false⟩],
    true⟩,
  ⟨[⟨"rel", ["root=capable", "prep=of", "pcomp"], true⟩,
    ⟨"rel", ["root", "prep=of", "pcomp", "cop"], true⟩,
    ⟨"ent1", ["root", "nsubj"], false⟩,
    ⟨"ent2", ["root", "prep=of", "pcomp", "prep=with", "pobj"], false⟩,
    ⟨"cond", ["root", "prep=of", "prep=across"], false⟩],
    true⟩,
  ⟨[⟨"rel", ["root", "!dobj"], true⟩,
    ⟨"ent1", ["root", "nsubjpass"], false⟩,
    ⟨"cond", ["root", "prep=in", "pobj=case", ".."], false⟩,
    ⟨"cond", ["root", "advmod"], false⟩],
    true⟩,
  ⟨[⟨"rel", ["root", "!dobj", "!xcomp", "!prep"], true⟩,
    ⟨"ent1", ["root", "nsubjpass"], false⟩,
    ⟨"cond", ["root", "nsubjpass", "amod"], false⟩],
    true⟩,
  ⟨[⟨"rel", ["root"], true⟩,
    ⟨"ent1", ["root", "nsubjpass"], false⟩,
    ⟨"ent2", ["root", "prep=onto", "pobj"], false⟩],
    true⟩,
  ⟨[⟨"rel", ["root=capable", "prep=of", "pcomp"], true⟩,
    ⟨"ent1", ["root", "nsubj"], false⟩,
    ⟨"ent2", ["root", "prep=of", "pcomp", "prep=in", "pobj"], false⟩,
    ⟨"cond", ["root", "advcl"], false⟩],
    true⟩,
  ⟨[⟨"rel", ["root"], true⟩,
    ⟨"rel", ["root", "xcomp"], true⟩,
    ⟨"ent1", ["root", "!dobj", "!prep", "nsubj"], false⟩,
    ⟨"ent2", ["root", "xcomp", "nsubj"], false⟩],
    true⟩,
  ⟨[⟨"rel", ["root"], true⟩,
    ⟨"rel", ["root", "xcomp"], true⟩,
    ⟨"ent1", ["root", "!dobj", "nsubj"], false⟩,
    ⟨"ent2", ["root", "xcomp", "nsubj"], false⟩,
    ⟨"cond", ["root", "prep=during"], false⟩],
    true⟩,
  ⟨[⟨"rel", ["root"], true⟩,
    ⟨"ent1", ["root", "!xcomp", "!dobj", "!prep", "nsubjpass"], false⟩,
    ⟨"cond", ["root", "ccomp"], false⟩],
    true⟩,
  ⟨[⟨"rel", ["root"], true⟩,
    ⟨"rel", ["root", "neg"], true⟩,
    ⟨"cond", ["root", "advcl"], false⟩,
    ⟨"ent1", ["root", "nsubj"], false⟩,
    ⟨"ent2", ["root", "prep=into", "pobj"], false⟩],
    true⟩,
  ⟨[⟨"rel", ["root"], true⟩,
    ⟨"ent1", ["root", "nsubj"], false⟩,
    ⟨"ent2", ["root", "prep=for", "pobj"], false⟩],
    true⟩,
  ⟨[⟨"rel", ["root"], true⟩,
    ⟨"cond", ["root", "prep=to", "advmod=prior", ".."], false⟩,
    ⟨"ent1", ["root", "!dobj", "nsubj"], false⟩],
    true⟩,
  ⟨[⟨"rel", ["root"], true⟩,
    ⟨"ent1", ["root", "nsubj"], false⟩,
    ⟨"ent2", ["root", "prep=with", "pobj"], false⟩,
    ⟨"cond", ["root", "advcl"], false⟩],
    true⟩,
  ⟨[⟨"rel", ["root"], true⟩,
    ⟨"ent1", ["root", "nsubjpass"], false⟩,
    ⟨"ent2", ["root", "prep=for", "pobj"], false⟩],
    true⟩,
  ⟨[⟨"rel", ["root"], true⟩,
    ⟨"ent1", ["root", "nsubj"], false⟩,
    ⟨"ent2", ["root", "prep=as", "pobj"], false⟩],
    true⟩,
  ⟨[⟨"rel", ["root"], true⟩,
    ⟨"ent2", ["root", "dobj"], false⟩,
    ⟨"cond", ["root", "dobj", "rcmod"], false⟩,
    ⟨"ent1", ["root", "nsubj"], false⟩,
    ⟨"cond", ["root", "dobj", "rcmod"], false⟩],
    true⟩,
  ⟨[⟨"rel", ["root"], true⟩,
    ⟨"ent2", ["root", "dobj"], false⟩,
    ⟨"cond", ["root", "dobj", "infmod"], false⟩,
    ⟨"ent1", ["root", "nsubj"], false⟩,
    ⟨"cond", ["root", "dobj", "rcmod"], false⟩],
    true⟩,
  ⟨[⟨"rel", ["root"], true⟩,
    ⟨"ent2", ["root", "dobj"], false⟩,
    ⟨"cond", ["root", "dobj", "prep"], false⟩,
    ⟨"ent1", ["root", "nsubj"], false⟩,
    ⟨"cond", ["root", "dobj", "rcmod"], false⟩],
    true⟩,
  ⟨[⟨"rel", ["root"], true⟩,
    ⟨"ent2", ["root", "dobj"], false⟩,
    ⟨"ent1", ["root", "nsubj"], false⟩,
    ⟨"cond", ["root", "dobj", "rcmod"], false⟩],
    true⟩,
  ⟨[⟨"rel", ["root"], true⟩,
    ⟨"rel", ["root", "dobj=capability"], true⟩,
    ⟨"ent1", ["root", "nsubj"], false⟩,
    ⟨"cond", ["root", "dobj", "dep"], false⟩],
    true⟩,
  ⟨[⟨"rel", ["root"], true⟩,
    ⟨"rel", ["root", "dobj=capability"], true⟩,
    ⟨"ent1", ["root", "nsubj"], false⟩,
    ⟨"cond", ["root", "dobj", "infmod"], false⟩],
    true⟩,
  ⟨[⟨"rel", ["root"], true⟩,
    ⟨"ent2", ["root", "dobj"], false⟩,
    ⟨"cond", ["root", "dobj", "rcmod"], false⟩,
    ⟨"ent1", ["root", "nsubj"], false⟩,
    ⟨"cond", ["root", "dep", "mark=if"], false⟩,
    ⟨"cond", ["root", "dep"], false⟩],
    true⟩,
  ⟨[⟨"rel", ["root"], true⟩,
    ⟨"ent2", ["root", "dobj"], false⟩,
    ⟨"cond", ["root", "dobj", "infmod"], false⟩,
    ⟨"ent1", ["root", "nsubj"], false⟩,
    ⟨"cond", ["root", "dep", "mark=if"], false⟩,
    ⟨"cond", ["root", "dep"], false⟩],
    true⟩,
  ⟨[⟨"rel", ["root"], true⟩,
    ⟨"ent2", ["root", "dobj"], false⟩,
    ⟨"cond", ["root", "dobj", "prep"], false⟩,
    ⟨"ent1", ["root", "nsubj"], false⟩,
    ⟨"cond", ["root", "dep", "mark=if"], false⟩,
    ⟨"cond", ["root", "dep"], false⟩],
    true⟩,
  ⟨[⟨"rel", ["root"], true⟩,
    ⟨"ent2", ["root", "dobj"], false⟩,
    ⟨"ent1", ["root", "nsubj"], false⟩,
    ⟨"cond", ["root", "dep", "mark=if"], false⟩,
    ⟨"cond", ["root", "dep"], false⟩],
    true⟩,
  ⟨[⟨"rel", ["root"], true⟩,
    ⟨"ent2", ["root", "dobj"], false⟩,
    ⟨"cond", ["root", "dobj", "rcmod"], false⟩,
    ⟨"ent1", ["root", "nsubj"], false⟩,
    ⟨"cond", ["root", "dobj", "dep"], false⟩],
    true⟩,
  ⟨[⟨"rel", ["root"], true⟩,
    ⟨"ent2", ["root", "dobj"], false⟩,
    ⟨"cond", ["root", "dobj", "infmod"], false⟩,
    ⟨"ent1", ["root", "nsubj"], false⟩,
    ⟨"cond", ["root", "dobj", "dep"], false⟩],
    true⟩,
  ⟨[⟨"rel", ["root"], true⟩,
    ⟨"ent2", ["root", "dobj"], false⟩,
    ⟨"cond", ["root", "dobj", "prep"], false⟩,
    ⟨"ent1", ["root", "nsubj"], false⟩,
    ⟨"cond", ["root", "dobj", "dep"], false⟩],
    true⟩,
  ⟨[⟨"rel", ["root"], true⟩,
    ⟨"ent2", ["root", "dobj"], false⟩,
    ⟨"ent1", ["root", "nsubj"], false⟩,
    ⟨"cond", ["root", "dobj", "dep"], false⟩],
    true⟩,
  ⟨[⟨"rel", ["root", "!dobj", "!xcomp"], true⟩,
    ⟨"ent1", ["root", "nsubjpass"], false⟩,
    ⟨"cond", ["root", "prep=during"], false⟩],
    true⟩,
  ⟨[⟨"rel", ["root"], true⟩,
    ⟨"ent1", ["root", "nsubjpass"], false⟩,
    ⟨"cond", ["root", "prep=before"], false⟩],
    true⟩,
  ⟨[⟨"rel", ["root"], true⟩,
    ⟨"ent1", ["root", "nsubj"], false⟩,
    ⟨"ent2", ["root", "prep", "pobj"], false⟩,
    ⟨"cond", ["root", "prep", "!pobj"], false⟩],
    true⟩,
  ⟨[⟨"rel", ["root", "!nsubj", "!nsubjpass", "!xcomp", "!prep"], true⟩,
    ⟨"ent1", ["root", "dobj"], false⟩],
    true⟩,
  ⟨[⟨"rel", ["root"], true⟩,
    ⟨"ent1", ["root", "!xcomp", "!dobj", "!prep", "nsubjpass"], false⟩],
    true⟩,
  ⟨[⟨"rel", ["root"], true⟩,
    ⟨"ent2", ["root", "dobj"], false⟩,
    ⟨"cond", ["root", "dobj", "rcmod"], false⟩,
    ⟨"ent1", ["root", "nsubj"], false⟩],
    true⟩,
  ⟨[⟨"rel", ["root"], true⟩,
    ⟨"ent2", ["root", "dobj"], false⟩,
    ⟨"cond", ["root", "dobj", "infmod"], false⟩,
    ⟨"ent1", ["root", "nsubj"], false⟩],
    true⟩,
  ⟨[⟨"rel", ["root"], true⟩,
    ⟨"ent2", ["root", "dobj"], false⟩,
    ⟨"cond", ["root", "dobj", "prep"], false⟩,
    ⟨"ent1", ["root", "nsubj"], false⟩],
    true⟩,
  ⟨[⟨"rel", ["root"], true⟩,
    ⟨"ent2", ["root", "dobj"], false⟩,
    ⟨"ent1", ["root", "nsubj"], false⟩],
    true⟩]

set_option maxRecDepth 4000 in
example : builtin.length = 102 := by decide

end Pattern

end DepTagger
